import TrackerGateway.Proofs.Session.Failure
import TrackerGateway.Proofs.Session.Identities

/-!
# Registries that do the same

What a registry finds for a unit, and whether it asks its directory, depends on its sessions and
on the numbers that are on record. It does not depend on which identifiers without a number are on
record (`Resembles`). So registries that differ in these only find the same and are changed alike
(`Resembles.resolve`), also where a directory says of one of them that it failed, and of the other
that the identifier is not known (`Resembles.resolve_forgiving`).
-/

namespace TrackerGateway

/-- Whether identifiers have the same numbers on record, and, `apart` from some, the same
identifiers are on record. -/
structure SameNumbers (apart : String → Prop) (numbers numbers' : Table String (Option DeviceId)) :
    Prop where
  number : ∀ uniqueId, (Table.get? numbers' uniqueId).join = (Table.get? numbers uniqueId).join
  holds : ∀ uniqueId, ¬ apart uniqueId →
    Table.holds numbers' uniqueId = Table.holds numbers uniqueId

namespace SameNumbers

variable {apart : String → Prop} {numbers numbers' : Table String (Option DeviceId)}

theorem put (h : SameNumbers apart numbers numbers') (uniqueId : String) (id : Option DeviceId) :
    SameNumbers apart (Table.put numbers uniqueId id) (Table.put numbers' uniqueId id) where
  number other := by
    rw [Table.get?_put, Table.get?_put]
    split
    · rfl
    · exact h.number other
  holds other spared := by
    rw [Table.holds, Table.holds, Table.get?_put, Table.get?_put]
    split
    · rfl
    · exact h.holds other spared

theorem erase (h : SameNumbers apart numbers numbers') (uniqueId : String) :
    SameNumbers apart (Table.erase numbers uniqueId) (Table.erase numbers' uniqueId) where
  number other := by
    rw [Table.get?_erase, Table.get?_erase]
    split
    · rfl
    · exact h.number other
  holds other spared := by
    rw [Table.holds, Table.holds, Table.get?_erase, Table.get?_erase]
    split
    · rfl
    · exact h.holds other spared

/-- An identifier that has no number may be on record in one of them only. -/
theorem put_erase (h : SameNumbers apart numbers numbers') (uniqueId : String)
    (free : apart uniqueId) :
    SameNumbers apart (Table.put numbers uniqueId none) (Table.erase numbers' uniqueId) where
  number other := by
    rw [Table.get?_put, Table.get?_erase]
    split
    · rfl
    · exact h.number other
  holds other spared := by
    rw [Table.holds, Table.holds, Table.get?_put, Table.get?_erase]
    split
    · rename_i same
      exact absurd (same ▸ free) spared
    · exact h.holds other spared

end SameNumbers

namespace Registry

variable {δ : Type} [Directory δ] {r r' : Registry} {directory : δ} {uniqueId : String}

/-! ### Finding a session -/

/-- What is found for an identifier, and what is on record, once the directory has answered. -/
def ask (r : Registry) (uniqueId : String) (asker : Option ConnectionId) (answer : Lookup) :
    Except Error (Option DeviceId) × Registry :=
  { r with lookups := r.lookups + 1 }.record uniqueId asker answer

theorem identify_of_recalled {id : DeviceId} (recalled : r.identity? uniqueId = some id)
    (asker : Option ConnectionId) :
    r.identify directory uniqueId asker = (.ok (some id), r, directory) := by
  rw [identify, Option.join_eq_some_iff.1 recalled]

theorem identify_of_new (new : r.identity? uniqueId = none) (asker : Option ConnectionId) :
    r.identify directory uniqueId asker =
      ((r.ask uniqueId asker (Directory.lookup directory uniqueId).1).1,
        (r.ask uniqueId asker (Directory.lookup directory uniqueId).1).2,
        (Directory.lookup directory uniqueId).2) := by
  unfold identify
  split
  · rename_i id known
    rw [identity?, known] at new
    cases new
  · rfl

/-- What becomes of a unit once its identifier was looked up. -/
def settle (mode : SessionMode) (connection : ConnectionId) (uniqueId : String) :
    Except Error (Option DeviceId) × Registry × δ → Except Error (Option Session) × Registry × δ
  | (.ok (some id), r, directory) =>
    (.ok (some (r.bind mode connection uniqueId id).1), (r.bind mode connection uniqueId id).2,
      directory)
  | (.ok none, r, directory) => (.ok none, r, directory)
  | (.error error, r, directory) => (.error error, r, directory)

theorem settle_directory {δ : Type} (mode : SessionMode) (connection : ConnectionId)
    (uniqueId : String) (found : Except Error (Option DeviceId)) (r : Registry) (directory : δ) :
    (settle mode connection uniqueId (found, r, directory)).2.2 = directory := by
  rcases found with _ | _ | _ <;> rfl

theorem resolve_of_kept {mode : SessionMode} {connection : ConnectionId} {session : Session}
    (kept : r.kept? mode connection uniqueId = some session) :
    r.resolve directory mode connection (some uniqueId) = (.ok (some session), r, directory) := by
  cases mode with
  | byConnection =>
    simp only [kept?] at kept
    rw [resolve, resolveOnConnection, kept]
  | byIdentifier =>
    simp only [kept?] at kept
    rw [resolve, resolveIdentifier, kept]

theorem resolve_of_new {mode : SessionMode} {connection : ConnectionId}
    (new : r.kept? mode connection uniqueId = none) :
    r.resolve directory mode connection (some uniqueId) =
      settle mode connection uniqueId (r.identify directory uniqueId (asker mode connection)) := by
  cases mode with
  | byConnection =>
    simp only [kept?] at new
    rw [resolve, resolveOnConnection, new, asker]
    rcases r.identify directory uniqueId (some connection) with ⟨_ | _ | _, _⟩ <;> rfl
  | byIdentifier =>
    simp only [kept?] at new
    rw [resolve, resolveIdentifier, new, asker]
    rcases r.identify directory uniqueId none with ⟨_ | _ | _, _⟩ <;> rfl

/-! ### Two registries -/

/-- Whether two registries hold the same, `apart` from some identifiers that are on record without a
number. -/
structure Resembles (apart : String → Prop) (r r' : Registry) : Prop where
  connections : r'.connections = r.connections
  identifiers : r'.identifiers = r.identifiers
  lastPositions : r'.lastPositions = r.lastPositions
  identities : SameNumbers apart r.identities r'.identities

/-- Whether registries that resemble each other were changed alike: they still do, the same
changes were logged and the directory was asked as often. -/
structure Parallel (apart : String → Prop) (r r' after after' : Registry) : Prop where
  resembles : after.Resembles apart after'
  events : ∃ more, after.events = r.events ++ more ∧ after'.events = r'.events ++ more
  lookups : ∃ more, after.lookups = r.lookups + more ∧ after'.lookups = r'.lookups + more

variable {apart : String → Prop}

theorem Resembles.refl (r : Registry) : r.Resembles apart r :=
  ⟨rfl, rfl, rfl, fun _ => rfl, fun _ _ => rfl⟩

theorem Resembles.parallel (h : r.Resembles apart r') : Parallel apart r r' r r' :=
  ⟨h, ⟨[], (List.append_nil _).symm, (List.append_nil _).symm⟩, ⟨0, rfl, rfl⟩⟩

theorem Parallel.trans {between between' after after' : Registry}
    (first : Parallel apart r r' between between')
    (second : Parallel apart between between' after after') : Parallel apart r r' after after' := by
  obtain ⟨events, logged, logged'⟩ := first.events
  obtain ⟨more, later, later'⟩ := second.events
  obtain ⟨count, asked, asked'⟩ := first.lookups
  obtain ⟨again, askedAgain, askedAgain'⟩ := second.lookups
  refine ⟨second.resembles, ⟨events ++ more, ?_, ?_⟩, ⟨count + again, ?_, ?_⟩⟩
  · rw [later, logged, List.append_assoc]
  · rw [later', logged', List.append_assoc]
  · rw [askedAgain, asked, Nat.add_assoc]
  · rw [askedAgain', asked', Nat.add_assoc]

variable (h : r.Resembles apart r')
include h

theorem Resembles.kept?_eq (mode : SessionMode) (connection : ConnectionId) (uniqueId : String) :
    r'.kept? mode connection uniqueId = r.kept? mode connection uniqueId := by
  cases mode with
  | byConnection => simp only [kept?, sessionOf?, h.connections]
  | byIdentifier => simp only [kept?, h.identifiers]

theorem Resembles.parallel_ask (uniqueId : String) (asker : Option ConnectionId) (answer : Lookup) :
    (r'.ask uniqueId asker answer).1 = (r.ask uniqueId asker answer).1 ∧
      Parallel apart r r' (r.ask uniqueId asker answer).2 (r'.ask uniqueId asker answer).2 := by
  have still := h.parallel.events
  have once : ∃ more, r.lookups + 1 = r.lookups + more ∧ r'.lookups + 1 = r'.lookups + more :=
    ⟨1, rfl, rfl⟩
  cases answer with
  | known id =>
    have recorded := h.identities.put uniqueId (some id)
    exact ⟨rfl, ⟨h.connections, h.identifiers, h.lastPositions, recorded⟩, still, once⟩
  | unknown =>
    have erased := h.identities.erase uniqueId
    exact ⟨rfl, ⟨h.connections, h.identifiers, h.lastPositions, erased⟩, ⟨[_], rfl, rfl⟩, once⟩
  | failed error =>
    have recorded := h.identities.put uniqueId none
    exact ⟨rfl, ⟨h.connections, h.identifiers, h.lastPositions, recorded⟩, still, once⟩

theorem Resembles.parallel_bind (mode : SessionMode) (connection : ConnectionId) (uniqueId : String)
    (id : DeviceId) :
    (r'.bind mode connection uniqueId id).1 = (r.bind mode connection uniqueId id).1 ∧
      Parallel apart r r' (r.bind mode connection uniqueId id).2
        (r'.bind mode connection uniqueId id).2 := by
  cases mode with
  | byConnection =>
    have connections := congrArg
      (Table.put · connection (Session.mk id uniqueId (.connection connection))) h.connections
    exact ⟨rfl, ⟨connections, h.identifiers, h.lastPositions, h.identities⟩, ⟨[_], rfl, rfl⟩,
      ⟨0, rfl, rfl⟩⟩
  | byIdentifier =>
    have identifiers := congrArg
      (Table.put · uniqueId (Session.mk id uniqueId (.identifier uniqueId))) h.identifiers
    exact ⟨rfl, ⟨h.connections, identifiers, h.lastPositions, h.identities⟩, ⟨[_], rfl, rfl⟩,
      ⟨0, rfl, rfl⟩⟩

theorem Resembles.parallel_settle {δ δ' : Type} (mode : SessionMode) (connection : ConnectionId)
    (uniqueId : String) (found : Except Error (Option DeviceId)) (directory : δ) (directory' : δ') :
    let outcome := settle mode connection uniqueId (found, r, directory)
    let outcome' := settle mode connection uniqueId (found, r', directory')
    outcome'.1 = outcome.1 ∧ Parallel apart r r' outcome.2.1 outcome'.2.1 := by
  match found with
  | .error error => exact ⟨rfl, h.parallel⟩
  | .ok none => exact ⟨rfl, h.parallel⟩
  | .ok (some id) =>
    obtain ⟨session, bound⟩ := h.parallel_bind mode connection uniqueId id
    refine ⟨?_, bound⟩
    simp only [settle, session]

/-- Registries that resemble each other go the same way to a session, whichever directories they
ask: they have it, or they recall the number of the identifier, or they ask. -/
theorem Resembles.resolve_cases {δ' : Type} [Directory δ'] {directory : δ} {directory' : δ'}
    {mode : SessionMode} {connection : ConnectionId} {uniqueId : String}
    (both : Except Error (Option Session) × Registry × δ →
      Except Error (Option Session) × Registry × δ' → Prop)
    (kept : ∀ session,
      both (.ok (some session), r, directory) (.ok (some session), r', directory'))
    (recalled : ∀ id,
      both (settle mode connection uniqueId (.ok (some id), r, directory))
        (settle mode connection uniqueId (.ok (some id), r', directory')))
    (asked :
      let found := r.ask uniqueId (asker mode connection) (Directory.lookup directory uniqueId).1
      let found' := r'.ask uniqueId (asker mode connection) (Directory.lookup directory' uniqueId).1
      both
        (settle mode connection uniqueId
          (found.1, found.2, (Directory.lookup directory uniqueId).2))
        (settle mode connection uniqueId
          (found'.1, found'.2, (Directory.lookup directory' uniqueId).2))) :
    both (r.resolve directory mode connection (some uniqueId))
      (r'.resolve directory' mode connection (some uniqueId)) := by
  have sameKept := h.kept?_eq mode connection uniqueId
  have sameNumber : r'.identity? uniqueId = r.identity? uniqueId := h.identities.number uniqueId
  cases found : r.kept? mode connection uniqueId with
  | some session =>
    rw [resolve_of_kept found, resolve_of_kept (sameKept.trans found)]
    exact kept session
  | none =>
    rw [resolve_of_new found, resolve_of_new (sameKept.trans found)]
    cases number : r.identity? uniqueId with
    | some id =>
      rw [identify_of_recalled number, identify_of_recalled (sameNumber.trans number)]
      exact recalled id
    | none =>
      rw [identify_of_new number, identify_of_new (sameNumber.trans number)]
      exact asked

/-- Over one directory, registries that resemble each other find the same, ask the same, and are
changed alike. -/
theorem Resembles.resolve (directory : δ) (mode : SessionMode) (connection : ConnectionId)
    (identifier : Option String) :
    let outcome := r.resolve directory mode connection identifier
    let outcome' := r'.resolve directory mode connection identifier
    outcome'.1 = outcome.1 ∧ outcome'.2.2 = outcome.2.2 ∧
      Parallel apart r r' outcome.2.1 outcome'.2.1 := by
  cases identifier with
  | none =>
    cases mode with
    | byConnection =>
      refine ⟨?_, rfl, h.parallel⟩
      simp only [Registry.resolve, sessionOf?, h.connections]
    | byIdentifier => exact ⟨rfl, rfl, h.parallel⟩
  | some uniqueId =>
    refine h.resolve_cases (fun outcome outcome' => outcome'.1 = outcome.1 ∧
      outcome'.2.2 = outcome.2.2 ∧ Parallel apart r r' outcome.2.1 outcome'.2.1) ?_ ?_ ?_
    · exact fun session => ⟨rfl, rfl, h.parallel⟩
    · intro id
      obtain ⟨same, settled⟩ :=
        h.parallel_settle mode connection uniqueId (.ok (some id)) directory directory
      exact ⟨same, by rw [settle_directory, settle_directory], settled⟩
    · intro found found'
      obtain ⟨sameFound, asked⟩ : found'.1 = found.1 ∧ Parallel apart r r' found.2 found'.2 :=
        h.parallel_ask uniqueId (asker mode connection) (Directory.lookup directory uniqueId).1
      obtain ⟨same, settled⟩ := asked.resembles.parallel_settle mode connection uniqueId found.1
        (Directory.lookup directory uniqueId).2 (Directory.lookup directory uniqueId).2
      rw [sameFound]
      exact ⟨same, by rw [settle_directory, settle_directory], asked.trans settled⟩

end Registry

/-! ### Failures that are forgiven -/

namespace Registry

variable {δ : Type} [Directory δ] {r r' : Registry}

/-- What is found where a failure goes for an identifier that is not known. -/
def forgiven {α : Type} : Except Error (Option α) → Except Error (Option α)
  | .error _ => .ok none
  | .ok found => .ok found

theorem Resembles.ask_forgiven (h : r.Resembles (fun _ => True) r') (uniqueId : String)
    (asker : Option ConnectionId) (answer : Lookup) :
    (r'.ask uniqueId asker answer.forgiven).1 = forgiven (r.ask uniqueId asker answer).1 ∧
      (r.ask uniqueId asker answer).2.Resembles (fun _ => True)
        (r'.ask uniqueId asker answer.forgiven).2 := by
  cases answer with
  | known id => exact ⟨rfl, (h.parallel_ask uniqueId asker (.known id)).2.resembles⟩
  | unknown => exact ⟨rfl, (h.parallel_ask uniqueId asker .unknown).2.resembles⟩
  | failed error =>
    have identities := h.identities.put_erase uniqueId trivial
    exact ⟨rfl, h.connections, h.identifiers, h.lastPositions, identities⟩

theorem Resembles.settle_forgiven {δ δ' : Type} (h : r.Resembles (fun _ => True) r')
    (mode : SessionMode) (connection : ConnectionId) (uniqueId : String)
    (found : Except Error (Option DeviceId)) (directory : δ) (directory' : δ') :
    let outcome := settle mode connection uniqueId (found, r, directory)
    let outcome' := settle mode connection uniqueId (forgiven found, r', directory')
    outcome'.1 = forgiven outcome.1 ∧ outcome.2.1.Resembles (fun _ => True) outcome'.2.1 := by
  match found with
  | .error error => exact ⟨rfl, h⟩
  | .ok none => exact ⟨rfl, h⟩
  | .ok (some id) =>
    obtain ⟨session, bound⟩ := h.parallel_bind mode connection uniqueId id
    refine ⟨?_, bound.resembles⟩
    simp only [settle, forgiven, session]

/-- A directory that forgives its failures finds the sessions that it finds without. -/
theorem Resembles.resolve_forgiving (h : r.Resembles (fun _ => True) r') (directory : δ)
    (mode : SessionMode) (connection : ConnectionId) (uniqueId : String) :
    let outcome := r.resolve directory mode connection (some uniqueId)
    let outcome' := r'.resolve (Forgiving.mk directory) mode connection (some uniqueId)
    outcome'.1 = forgiven outcome.1 ∧ outcome'.2.2 = ⟨outcome.2.2⟩ ∧
      outcome.2.1.Resembles (fun _ => True) outcome'.2.1 := by
  refine h.resolve_cases (fun outcome outcome' => outcome'.1 = forgiven outcome.1 ∧
    outcome'.2.2 = Forgiving.mk outcome.2.2 ∧
    outcome.2.1.Resembles (fun _ => True) outcome'.2.1) ?_ ?_ ?_
  · exact fun session => ⟨rfl, rfl, h⟩
  · intro id
    obtain ⟨same, settled⟩ := h.settle_forgiven mode connection uniqueId (.ok (some id)) directory
      (Forgiving.mk directory)
    exact ⟨same, by rw [settle_directory, settle_directory], settled⟩
  · intro found found'
    obtain ⟨sameFound, asked⟩ : found'.1 = forgiven found.1 ∧
        found.2.Resembles (fun _ => True) found'.2 :=
      h.ask_forgiven uniqueId (asker mode connection) (Directory.lookup directory uniqueId).1
    obtain ⟨same, settled⟩ := asked.settle_forgiven mode connection uniqueId found.1
      (Directory.lookup directory uniqueId).2 (Forgiving.mk (Directory.lookup directory uniqueId).2)
    rw [sameFound]
    exact ⟨same, by rw [settle_directory, settle_directory]; rfl, settled⟩

end Registry
end TrackerGateway
