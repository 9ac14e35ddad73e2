import TrackerGateway.Proofs.Session.Identities

/-!
# Sessions over a directory that never changes its answers

The number of an identifier is then fixed once and for all, whether the registry recalls it or has
to ask, and so is the device of a session that is kept by identifier (`Sessions.Steady`). No
naming of an identifier changes either, on whichever connection. What a connection's own session
becomes follows from these numbers and from the session it had (`Steady.resolve_byConnection`).
-/

namespace TrackerGateway

/-- The numbers of identifiers: what the directory gives, what looking an identifier up finds, and
the device of the session that is kept for it. -/
structure Numbers where
  given : String → Option DeviceId
  identity : String → Option DeviceId
  device : String → Option DeviceId

namespace Sessions

variable {δ : Type} [Directory δ]

/-- Whether these are the numbers of identifiers, however often and in which order they are
named. -/
structure Steady (numbers : Numbers) (s : Sessions δ) : Prop where
  gives : Directory.Gives s.2 numbers.given
  identity : ∀ uniqueId,
    (s.1.identity? uniqueId).or (numbers.given uniqueId) = numbers.identity uniqueId
  device : ∀ uniqueId,
    ((Table.get? s.1.identifiers uniqueId).map (·.deviceId)).or (numbers.identity uniqueId) =
      numbers.device uniqueId

/-- Over a directory that never changes its answers, the numbers are fixed by what the registry
holds at any time. -/
theorem exists_steady {given : String → Option DeviceId} {s : Sessions δ}
    (gives : Directory.Gives s.2 given) : ∃ numbers, s.Steady numbers := by
  let identity (uniqueId : String) := (s.1.identity? uniqueId).or (given uniqueId)
  let device (uniqueId : String) :=
    ((Table.get? s.1.identifiers uniqueId).map (·.deviceId)).or (identity uniqueId)
  exact ⟨⟨given, identity, device⟩, gives, fun _ => rfl, fun _ => rfl⟩

variable {numbers : Numbers} {s : Sessions δ}

/-- Looking an identifier up finds its number and changes none. -/
theorem Steady.identified {uniqueId : String} {asker : Option ConnectionId}
    {result : Except Error (Option DeviceId)} {r' : Registry} {directory' : δ}
    (steady : s.Steady numbers)
    (h : Registry.Identified s.1 s.2 uniqueId asker (result, r', directory')) :
    result = .ok (numbers.identity uniqueId) ∧ Steady numbers (r', directory') := by
  have answer : (Directory.lookup s.2 uniqueId).1.number? = numbers.given uniqueId := by
    rw [steady.gives.lookup_eq]
    cases numbers.given uniqueId <;> rfl
  rcases h.recalled_or_asked with ⟨id, known, rfl, rfl, rfl⟩ | ⟨new, rfl, later, told⟩
  · refine ⟨?_, steady⟩
    rw [← steady.identity uniqueId, known]
    rfl
  · have number : numbers.identity uniqueId = numbers.given uniqueId := by
      rw [← steady.identity uniqueId, new]
      rfl
    constructor
    · cases result with
      | ok found => rw [told found rfl, answer, number]
      | error error =>
        cases h with
        | failed _ _ failed => exact absurd failed (steady.gives.reliable [] uniqueId error)
    · refine ⟨steady.gives.lookup uniqueId, fun other => ?_, fun other => ?_⟩
      · rw [later other, answer]
        split
        · rename_i same
          rw [← same, number]
          cases numbers.given uniqueId <;> rfl
        · exact steady.identity other
      · rw [h.identifiers_eq]
        exact steady.device other

/-- The session that a connection has once it has named an identifier: the one it had, if that is of
this identifier, or else a new one, if the identifier has a number. -/
def settled (numbers : Numbers) (connection : ConnectionId)
    (session : Option Session) (uniqueId : String) : Option Session :=
  (session.filter fun s => s.uniqueId == uniqueId).or
    ((numbers.identity uniqueId).map fun id => ⟨id, uniqueId, .connection connection⟩)

theorem Steady.resolve_byConnection (steady : s.Steady numbers)
    (connection : ConnectionId) (uniqueId : String) :
    let found := settled numbers connection (s.1.sessionOf? connection) uniqueId
    (s.1.resolve s.2 .byConnection connection (some uniqueId)).1 = .ok found ∧
      (s.named .byConnection connection uniqueId).1.sessionOf? connection =
        found.or (s.1.sessionOf? connection) := by
  have resolved := s.1.resolved s.2 .byConnection connection uniqueId
  unfold settled named
  generalize s.1.resolve s.2 .byConnection connection (some uniqueId) = outcome at resolved ⊢
  cases resolved with
  | kept session kept =>
    simp only [Registry.kept?] at kept
    rw [kept]
    exact ⟨rfl, (Option.filter_eq_some_iff.1 kept).1⟩
  | bound id r' directory' new identified =>
    simp only [Registry.kept?] at new
    have number := Except.ok.inj (steady.identified identified).1
    rw [new, ← number]
    refine ⟨rfl, ?_⟩
    simp only [Registry.bind, Registry.bindConnection, Registry.log, Registry.sessionOf?,
      Table.get?_put, if_true]
    rfl
  | unknown r' directory' new identified =>
    simp only [Registry.kept?] at new
    have number := Except.ok.inj (steady.identified identified).1
    rw [new, ← number]
    refine ⟨rfl, ?_⟩
    rw [Registry.sessionOf?, identified.connections_eq]
    rfl
  | failed error r' directory' new identified =>
    obtain ⟨answer, -⟩ := steady.identified identified
    cases answer

/-- A session that is kept by identifier is that of the identifier's device, and no connection gets
another session. -/
theorem Steady.resolve_byIdentifier (steady : s.Steady numbers)
    (connection other : ConnectionId) (uniqueId : String) :
    (∃ found, (s.1.resolve s.2 .byIdentifier connection (some uniqueId)).1 = .ok found ∧
        found.map (·.deviceId) = numbers.device uniqueId) ∧
      (s.named .byIdentifier connection uniqueId).1.sessionOf? other = s.1.sessionOf? other := by
  have number := steady.device uniqueId
  have asked {found : Option DeviceId} {r' : Registry} {directory' : δ}
      (new : Table.get? s.1.identifiers uniqueId = none)
      (identified : s.1.Identified s.2 uniqueId none (.ok found, r', directory')) :
      found = numbers.device uniqueId ∧ r'.sessionOf? other = s.1.sessionOf? other := by
    rw [new, ← Except.ok.inj (steady.identified identified).1] at number
    exact ⟨number, congrArg (Table.get? · other) identified.connections_eq⟩
  have resolved := s.1.resolved s.2 .byIdentifier connection uniqueId
  unfold named
  generalize s.1.resolve s.2 .byIdentifier connection (some uniqueId) = outcome at resolved ⊢
  cases resolved with
  | kept session kept =>
    simp only [Registry.kept?] at kept
    rw [kept] at number
    exact ⟨⟨_, rfl, number⟩, rfl⟩
  | bound id r' directory' new identified =>
    obtain ⟨device, same⟩ := asked new identified
    exact ⟨⟨_, rfl, device⟩, same⟩
  | unknown r' directory' new identified =>
    obtain ⟨device, same⟩ := asked new identified
    exact ⟨⟨_, rfl, device⟩, same⟩
  | failed error r' directory' new identified =>
    obtain ⟨answer, -⟩ := steady.identified identified
    cases answer

/-- Naming an identifier changes no number. -/
theorem Steady.named (steady : s.Steady numbers) (mode : SessionMode)
    (connection : ConnectionId) (uniqueId : String) :
    (s.named mode connection uniqueId).Steady numbers := by
  have resolved := s.1.resolved s.2 mode connection uniqueId
  unfold Sessions.named
  generalize s.1.resolve s.2 mode connection (some uniqueId) = outcome at resolved ⊢
  cases resolved with
  | kept => exact steady
  | unknown r' directory' new identified => exact (steady.identified identified).2
  | failed error r' directory' new identified => exact (steady.identified identified).2
  | bound id r' directory' new identified =>
    obtain ⟨answer, after⟩ := steady.identified identified
    injection answer with number
    cases mode with
    | byConnection => exact ⟨after.gives, after.identity, after.device⟩
    | byIdentifier =>
      refine ⟨after.gives, after.identity, fun other => ?_⟩
      simp only [Registry.bind, Registry.bindIdentifier, Registry.log, Table.get?_put]
      split
      · rename_i same
        -- the new session is of the number that its identifier had already
        simp only [Registry.kept?] at new
        rw [← same, ← steady.device uniqueId, new, ← number]
        rfl
      · exact after.device other

/-- Closing a connection changes no number. -/
theorem Steady.release (steady : s.Steady numbers) (connection : ConnectionId) :
    Steady numbers ((s.1.release connection).2, s.2) := by
  unfold Registry.release
  split <;> exact ⟨steady.gives, steady.identity, steady.device⟩

theorem Steady.updateLast (steady : s.Steady numbers) (position : Position) :
    Steady numbers (s.1.updateLast position, s.2) := by
  unfold Registry.updateLast
  split <;> exact ⟨steady.gives, steady.identity, steady.device⟩

end Sessions
end TrackerGateway
