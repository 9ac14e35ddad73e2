import TrackerGateway.Session.Services

/-!
# What a registry takes from its directory

A registry asks its directory at most once for a unit, and only then can it fail. Over a directory
that always answers (`Directory.Reliable`) every unit finds its session or learns that its device is
not known.
-/

namespace TrackerGateway

namespace Directory

variable {δ : Type} [Directory δ]

/-- A directory once it has been asked for identifiers, one after the other. -/
def after (directory : δ) (asked : List String) : δ :=
  asked.foldl (fun directory uniqueId => (lookup directory uniqueId).2) directory

/-- Whether a directory gives every identifier a number or says that it has none, whatever it was
asked before. -/
def Reliable (directory : δ) : Prop :=
  ∀ (asked : List String) (uniqueId : String) (error : Error),
    (lookup (after directory asked) uniqueId).1 ≠ .failed error

/-- Whether a directory has a number for an identifier. -/
def Knows (directory : δ) (uniqueId : String) : Prop :=
  ∃ id, (lookup directory uniqueId).1 = .known id

/-- Whether it never changes which identifiers a directory knows. -/
def Settled (directory : δ) : Prop :=
  ∀ (asked : List String) (uniqueId : String),
    Knows (after directory asked) uniqueId ↔ Knows directory uniqueId

theorem Reliable.lookup {directory : δ} (reliable : Reliable directory) (uniqueId : String) :
    Reliable (Directory.lookup directory uniqueId).2 :=
  fun asked => reliable (uniqueId :: asked)

theorem Settled.lookup {directory : δ} (settled : Settled directory) (uniqueId : String) :
    Settled (Directory.lookup directory uniqueId).2 := by
  intro asked other
  rw [show after (Directory.lookup directory uniqueId).2 asked =
    after directory (uniqueId :: asked) from rfl, settled (uniqueId :: asked) other]
  exact (settled [uniqueId] other).symm

theorem after_answers (answers : String → Lookup) (asked : List String) :
    after answers asked = answers := by
  induction asked with
  | nil => rfl
  | cons _ _ ih => exact ih

/-- A directory that never changes always answers if none of its answers is a failure. -/
theorem reliable_answers {answers : String → Lookup}
    (h : ∀ uniqueId error, answers uniqueId ≠ .failed error) : Reliable answers := by
  intro asked uniqueId error
  rw [after_answers]
  exact h uniqueId error

theorem settled_answers (answers : String → Lookup) : Settled answers := by
  intro asked uniqueId
  rw [after_answers]

/-- Whether a directory gives these numbers, whatever it was asked before, and does not know the
identifiers without one. -/
def Gives (directory : δ) (number? : String → Option DeviceId) : Prop :=
  ∀ (asked : List String) (uniqueId : String),
    (lookup (after directory asked) uniqueId).1 = (number? uniqueId).elim .unknown .known

theorem Gives.lookup_eq {directory : δ} {number? : String → Option DeviceId}
    (gives : Gives directory number?) (uniqueId : String) :
    (Directory.lookup directory uniqueId).1 = (number? uniqueId).elim .unknown .known :=
  gives [] uniqueId

theorem Gives.lookup {directory : δ} {number? : String → Option DeviceId}
    (gives : Gives directory number?) (uniqueId : String) :
    Gives (Directory.lookup directory uniqueId).2 number? :=
  fun asked => gives (uniqueId :: asked)

theorem Gives.reliable {directory : δ} {number? : String → Option DeviceId}
    (gives : Gives directory number?) : Reliable directory := by
  intro asked uniqueId error
  rw [gives asked uniqueId]
  cases number? uniqueId with
  | none => exact Lookup.noConfusion
  | some id => exact Lookup.noConfusion

theorem gives_answers (number? : String → Option DeviceId) :
    Gives (fun uniqueId => (number? uniqueId).elim Lookup.unknown .known) number? := by
  intro asked uniqueId
  rw [after_answers]
  rfl

end Directory

namespace Registry

variable {δ : Type} [Directory δ]

/-- How a registry finds the number of an identifier: it remembers it, or else it asks. -/
inductive Identified (r : Registry) (directory : δ) (uniqueId : String)
    (connection : Option ConnectionId) : Except Error (Option DeviceId) × Registry × δ → Prop where
  | remembered (id : DeviceId) (h : Table.get? r.identities uniqueId = some (some id)) :
    Identified r directory uniqueId connection (.ok (some id), r, directory)
  | known (id : DeviceId) (new : (Table.get? r.identities uniqueId).join = none)
    (h : (Directory.lookup directory uniqueId).1 = .known id) :
    Identified r directory uniqueId connection
      (.ok (some id),
        { r with
          identities := Table.put r.identities uniqueId (some id)
          lookups := r.lookups + 1 },
        (Directory.lookup directory uniqueId).2)
  | unknown (new : (Table.get? r.identities uniqueId).join = none)
    (h : (Directory.lookup directory uniqueId).1 = .unknown) :
    Identified r directory uniqueId connection
      (.ok none,
        { r with
          identities := Table.erase r.identities uniqueId
          lookups := r.lookups + 1
          events := r.events ++ [.unknown uniqueId connection] },
        (Directory.lookup directory uniqueId).2)
  | failed (error : Error) (new : (Table.get? r.identities uniqueId).join = none)
    (h : (Directory.lookup directory uniqueId).1 = .failed error) :
    Identified r directory uniqueId connection
      (.error error,
        { r with identities := Table.put r.identities uniqueId none, lookups := r.lookups + 1 },
        (Directory.lookup directory uniqueId).2)

theorem identified (r : Registry) (directory : δ) (uniqueId : String)
    (connection : Option ConnectionId) :
    Identified r directory uniqueId connection (r.identify directory uniqueId connection) := by
  unfold identify
  split
  · rename_i id remembered
    exact .remembered id remembered
  · rename_i notKnown
    have new : (Table.get? r.identities uniqueId).join = none := by
      cases kept : (Table.get? r.identities uniqueId).join with
      | none => rfl
      | some id => exact absurd (Option.join_eq_some_iff.1 kept) (notKnown id)
    let asked := { r with lookups := r.lookups + 1 }.record uniqueId connection
      (Directory.lookup directory uniqueId).1
    show Identified r directory uniqueId connection
      (asked.1, asked.2, (Directory.lookup directory uniqueId).2)
    simp only [asked]
    cases answer : (Directory.lookup directory uniqueId).1 with
    | known id => exact .known id new answer
    | unknown => exact .unknown new answer
    | failed error => exact .failed error new answer

/-- The session that a registry keeps for a unit with an identifier. -/
def kept? (r : Registry) (mode : SessionMode) (connection : ConnectionId) (uniqueId : String) :
    Option Session :=
  match mode with
  | .byConnection => (r.sessionOf? connection).filter fun s => s.uniqueId == uniqueId
  | .byIdentifier => Table.get? r.identifiers uniqueId

/-- The connection that a registry asks for. -/
def asker : SessionMode → ConnectionId → Option ConnectionId
  | .byConnection, connection => some connection
  | .byIdentifier, _ => none

/-- Keeps a new session for a connection or for an identifier. -/
def bind (r : Registry) (mode : SessionMode) (connection : ConnectionId) (uniqueId : String)
    (id : DeviceId) : Session × Registry :=
  match mode with
  | .byConnection => r.bindConnection connection uniqueId id
  | .byIdentifier => r.bindIdentifier uniqueId id

/-- How a registry finds the session for an identifier: it has one, or makes one of the number. -/
inductive Resolved (r : Registry) (directory : δ) (mode : SessionMode) (connection : ConnectionId)
    (uniqueId : String) : Except Error (Option Session) × Registry × δ → Prop where
  | kept (session : Session) (h : r.kept? mode connection uniqueId = some session) :
    Resolved r directory mode connection uniqueId (.ok (some session), r, directory)
  | bound (id : DeviceId) (r' : Registry) (directory' : δ)
    (new : r.kept? mode connection uniqueId = none)
    (h : Identified r directory uniqueId (asker mode connection) (.ok (some id), r', directory')) :
    Resolved r directory mode connection uniqueId
      (.ok (some (r'.bind mode connection uniqueId id).1), (r'.bind mode connection uniqueId id).2,
        directory')
  | unknown (r' : Registry) (directory' : δ) (new : r.kept? mode connection uniqueId = none)
    (h : Identified r directory uniqueId (asker mode connection) (.ok none, r', directory')) :
    Resolved r directory mode connection uniqueId (.ok none, r', directory')
  | failed (error : Error) (r' : Registry) (directory' : δ)
    (new : r.kept? mode connection uniqueId = none)
    (h : Identified r directory uniqueId (asker mode connection) (.error error, r', directory')) :
    Resolved r directory mode connection uniqueId (.error error, r', directory')

theorem resolved (r : Registry) (directory : δ) (mode : SessionMode) (connection : ConnectionId)
    (uniqueId : String) :
    Resolved r directory mode connection uniqueId
      (r.resolve directory mode connection (some uniqueId)) := by
  have found := r.identified directory uniqueId (asker mode connection)
  cases mode with
  | byConnection =>
    show Resolved r directory .byConnection connection uniqueId
      (r.resolveOnConnection directory connection uniqueId)
    unfold resolveOnConnection
    split
    · rename_i session kept
      exact .kept session kept
    · rename_i new
      rw [asker] at found
      generalize r.identify directory uniqueId (some connection) = outcome at found ⊢
      match outcome with
      | (.ok (some id), r', directory') => exact .bound id r' directory' new found
      | (.ok none, r', directory') => exact .unknown r' directory' new found
      | (.error error, r', directory') => exact .failed error r' directory' new found
  | byIdentifier =>
    show Resolved r directory .byIdentifier connection uniqueId
      (r.resolveIdentifier directory uniqueId)
    unfold resolveIdentifier
    split
    · rename_i session kept
      exact .kept session kept
    · rename_i new
      rw [asker] at found
      generalize r.identify directory uniqueId none = outcome at found ⊢
      match outcome with
      | (.ok (some id), r', directory') => exact .bound id r' directory' new found
      | (.ok none, r', directory') => exact .unknown r' directory' new found
      | (.error error, r', directory') => exact .failed error r' directory' new found

/-- A registry asks its directory for the identifier of the unit, if it asks at all. -/
theorem Identified.directory_eq {r r' : Registry} {directory directory' : δ} {uniqueId : String}
    {connection : Option ConnectionId} {result : Except Error (Option DeviceId)}
    (h : Identified r directory uniqueId connection (result, r', directory')) :
    directory' = directory ∨ directory' = (Directory.lookup directory uniqueId).2 := by
  cases h with
  | remembered => exact .inl rfl
  | known | unknown | failed => exact .inr rfl

theorem resolve_directory (r : Registry) (directory : δ) (mode : SessionMode)
    (connection : ConnectionId) (uniqueId : String) :
    (r.resolve directory mode connection (some uniqueId)).2.2 = directory ∨
      (r.resolve directory mode connection (some uniqueId)).2.2 =
        (Directory.lookup directory uniqueId).2 := by
  have resolved := r.resolved directory mode connection uniqueId
  generalize r.resolve directory mode connection (some uniqueId) = outcome at resolved ⊢
  cases resolved with
  | kept => exact .inl rfl
  | bound _ _ _ _ h => exact h.directory_eq
  | unknown _ _ _ h => exact h.directory_eq
  | failed _ _ _ _ h => exact h.directory_eq

theorem reliable_resolve {r : Registry} {directory : δ} (reliable : Directory.Reliable directory)
    (mode : SessionMode) (connection : ConnectionId) (uniqueId : String) :
    Directory.Reliable (r.resolve directory mode connection (some uniqueId)).2.2 := by
  rcases r.resolve_directory directory mode connection uniqueId with same | asked
  · rwa [same]
  · rw [asked]
    exact reliable.lookup uniqueId

/-- Over a directory that always answers, no unit fails for want of its session. -/
theorem exists_resolve_eq_ok {r : Registry} {directory : δ}
    (reliable : Directory.Reliable directory) (mode : SessionMode) (connection : ConnectionId)
    (uniqueId : String) :
    ∃ found, (r.resolve directory mode connection (some uniqueId)).1 = .ok found := by
  have resolved := r.resolved directory mode connection uniqueId
  generalize r.resolve directory mode connection (some uniqueId) = outcome at resolved ⊢
  cases resolved with
  | kept session => exact ⟨_, rfl⟩
  | bound => exact ⟨_, rfl⟩
  | unknown => exact ⟨_, rfl⟩
  | failed error r' directory' new h =>
    cases h with
    | failed _ _ answer => exact absurd answer (reliable [] uniqueId error)

/-- Whatever a registry remembers, a unit with an identifier that the directory knows finds a
session. -/
theorem exists_resolve_eq_some {r : Registry} {directory : δ} {uniqueId : String}
    (knows : Directory.Knows directory uniqueId) (mode : SessionMode) (connection : ConnectionId) :
    ∃ session, (r.resolve directory mode connection (some uniqueId)).1 = .ok (some session) := by
  obtain ⟨id, answer⟩ := knows
  have resolved := r.resolved directory mode connection uniqueId
  generalize r.resolve directory mode connection (some uniqueId) = outcome at resolved ⊢
  cases resolved with
  | kept session => exact ⟨session, rfl⟩
  | bound => exact ⟨_, rfl⟩
  | unknown r' directory' new h =>
    cases h with
    | unknown _ unknown =>
      rw [answer] at unknown
      cases unknown
  | failed error r' directory' new h =>
    cases h with
    | failed _ _ failed =>
      rw [answer] at failed
      cases failed

/-! ### Numbers of identifiers -/

/-- The number of an identifier that a registry remembers, by a session or by an earlier answer. -/
def remembered? (r : Registry) (uniqueId : String) : Option DeviceId :=
  match Table.get? r.identifiers uniqueId with
  | some session => some session.deviceId
  | none => (Table.get? r.identities uniqueId).join

/-- The number of an identifier: what the registry remembers, or else what the directory says. -/
def numberOf? (r : Registry) (directory : δ) (uniqueId : String) : Option DeviceId :=
  match r.remembered? uniqueId with
  | some id => some id
  | none =>
    match (Directory.lookup directory uniqueId).1 with
    | .known id => some id
    | _ => none

theorem Identified.numberOf?_eq {r r' : Registry} {directory directory' : δ} {uniqueId : String}
    {connection : Option ConnectionId} {number : Option DeviceId}
    (noSession : Table.get? r.identifiers uniqueId = none)
    (h : Identified r directory uniqueId connection (.ok number, r', directory')) :
    r.numberOf? directory uniqueId = number := by
  unfold numberOf? remembered?
  rw [noSession]
  cases h with
  | remembered id remembered =>
    rw [remembered]
    rfl
  | known id new answer =>
    rw [new, answer]
  | unknown new answer =>
    rw [new, answer]

/-- The session of an identifier is that of the device that has its number. -/
theorem deviceId_of_resolve {r : Registry} {directory : δ} {connection : ConnectionId}
    {uniqueId : String} {found : Option Session}
    (h : (r.resolve directory .byIdentifier connection (some uniqueId)).1 = .ok found) :
    found.map (·.deviceId) = r.numberOf? directory uniqueId := by
  have resolved := r.resolved directory .byIdentifier connection uniqueId
  generalize r.resolve directory .byIdentifier connection (some uniqueId) = outcome at h resolved
  cases resolved with
  | kept session kept =>
    cases h
    unfold numberOf? remembered?
    rw [show Table.get? r.identifiers uniqueId = some session from kept]
    rfl
  | bound id r' directory' new identified =>
    cases h
    exact (identified.numberOf?_eq new).symm
  | unknown r' directory' new identified =>
    cases h
    exact (identified.numberOf?_eq new).symm
  | failed error r' directory' new identified => cases h

/-! ### What is remembered -/

/-- Whether a registry has a number for an identifier without asking for it. -/
def Remembers (r : Registry) (uniqueId : String) : Prop :=
  (Table.get? r.identifiers uniqueId).isSome = true ∨
    (Table.get? r.identities uniqueId).join.isSome = true

theorem isSome_remembered?_iff {r : Registry} {uniqueId : String} :
    (r.remembered? uniqueId).isSome = true ↔ r.Remembers uniqueId := by
  unfold remembered? Remembers
  cases Table.get? r.identifiers uniqueId <;> simp

/-- There is a number for what is remembered, and else for what the directory knows when it is
asked. -/
theorem isSome_numberOf?_iff {r : Registry} {directory : δ} {uniqueId : String} :
    (r.numberOf? directory uniqueId).isSome = true ↔
      r.Remembers uniqueId ∨ Directory.Knows directory uniqueId := by
  rw [← isSome_remembered?_iff]
  unfold numberOf? Directory.Knows
  cases r.remembered? uniqueId with
  | some id => simp
  | none => cases (Directory.lookup directory uniqueId).1 <;> simp

section Identified

variable {r r' : Registry} {directory directory' : δ} {uniqueId : String}
  {connection : Option ConnectionId} {result : Except Error (Option DeviceId)}

/-- Looking for a number forgets none. -/
theorem Identified.remembers
    (h : Identified r directory uniqueId connection (result, r', directory')) {other : String}
    (before : r.Remembers other) : r'.Remembers other := by
  cases h with
  | remembered => exact before
  | known id new answer =>
    refine before.imp_right fun number => ?_
    rw [Table.get?_put]
    split
    · rfl
    · exact number
  | unknown new answer =>
    refine before.imp_right fun number => ?_
    have unlike : uniqueId ≠ other := by
      rintro rfl
      rw [new] at number
      cases number
    rwa [Table.get?_erase, if_neg unlike]
  | failed error new answer =>
    refine before.imp_right fun number => ?_
    have unlike : uniqueId ≠ other := by
      rintro rfl
      rw [new] at number
      cases number
    rwa [Table.get?_put, if_neg unlike]

/-- A number that is remembered now and was not before is one that the directory gave. -/
theorem Identified.remembers_or
    (h : Identified r directory uniqueId connection (result, r', directory')) {other : String}
    (after : r'.Remembers other) : r.Remembers other ∨ Directory.Knows directory other := by
  cases h with
  | remembered => exact .inl after
  | known id new answer =>
    by_cases same : uniqueId = other
    · subst same
      exact .inr ⟨id, answer⟩
    · left
      simpa only [Remembers, Table.get?_put, same, if_false] using after
  | unknown new answer =>
    -- A session is kept, and no number of this identifier is on record any more.
    refine .inl (after.imp_right fun number => ?_)
    rw [Table.get?_erase] at number
    split at number
    · cases number
    · exact number
  | failed error new answer =>
    refine .inl (after.imp_right fun number => ?_)
    rw [Table.get?_put] at number
    split at number
    · cases number
    · exact number

theorem Identified.remembers_or_knows {id : DeviceId}
    (h : Identified r directory uniqueId connection (.ok (some id), r', directory')) :
    r.Remembers uniqueId ∨ Directory.Knows directory uniqueId := by
  cases h with
  | remembered _ number => exact .inl (.inr (by rw [number]; rfl))
  | known _ new answer => exact .inr ⟨id, answer⟩

end Identified

theorem remembers_bind_iff {r : Registry} {mode : SessionMode} {connection : ConnectionId}
    {uniqueId other : String} {id : DeviceId} :
    (r.bind mode connection uniqueId id).2.Remembers other ↔
      r.Remembers other ∨ mode = .byIdentifier ∧ uniqueId = other := by
  cases mode with
  | byConnection => simp [Registry.bind, bindConnection, log, Remembers]
  | byIdentifier =>
    by_cases same : uniqueId = other
    · simp [Registry.bind, bindIdentifier, log, Remembers, Table.get?_put, same]
    · simp [Registry.bind, bindIdentifier, log, Remembers, Table.get?_put, same]

theorem Remembers.resolve {r : Registry} {other : String} (before : r.Remembers other)
    (directory : δ) (mode : SessionMode) (connection : ConnectionId) (uniqueId : String) :
    (r.resolve directory mode connection (some uniqueId)).2.1.Remembers other := by
  have resolved := r.resolved directory mode connection uniqueId
  generalize r.resolve directory mode connection (some uniqueId) = outcome at resolved ⊢
  cases resolved with
  | kept => exact before
  | bound _ _ _ _ h => exact remembers_bind_iff.2 (.inl (h.remembers before))
  | unknown _ _ _ h => exact h.remembers before
  | failed _ _ _ _ h => exact h.remembers before

theorem remembers_or_knows_of_resolve {r : Registry} {directory : δ} {mode : SessionMode}
    {connection : ConnectionId} {uniqueId other : String}
    (after : (r.resolve directory mode connection (some uniqueId)).2.1.Remembers other) :
    r.Remembers other ∨ Directory.Knows directory other := by
  have resolved := r.resolved directory mode connection uniqueId
  generalize r.resolve directory mode connection (some uniqueId) = outcome at resolved after
  cases resolved with
  | kept => exact .inl after
  | unknown _ _ _ h => exact h.remembers_or after
  | failed _ _ _ _ h => exact h.remembers_or after
  | bound _ _ _ _ h =>
    rcases remembers_bind_iff.1 after with earlier | ⟨-, rfl⟩
    · exact h.remembers_or earlier
    · exact h.remembers_or_knows

end Registry

/-! ### Registry and directory -/

/-- A registry and the directory that it asks. -/
abbrev Sessions (δ : Type) := Registry × δ

/-- The sessions that decoders share. -/
def Services.sessions {δ μ : Type} (s : Services δ μ) : Sessions δ := (s.registry, s.directory)

/-- The device of a connection. -/
def Sessions.device? {δ : Type} (connection : ConnectionId) (s : Sessions δ) : Option DeviceId :=
  (s.1.sessionOf? connection).map (·.deviceId)

namespace Sessions

variable {δ : Type} [Directory δ]

/-- Sessions once a unit of a connection has named an identifier. -/
def named (mode : SessionMode) (connection : ConnectionId) (s : Sessions δ) (uniqueId : String) :
    Sessions δ :=
  (s.1.resolve s.2 mode connection (some uniqueId)).2

/-- Sessions once a connection has named identifiers, one after the other. -/
def bound (connection : ConnectionId) (s : Sessions δ) (uniqueIds : List String) : Sessions δ :=
  uniqueIds.foldl (named .byConnection connection) s

/-- Whether sessions have a number for an identifier: it is remembered, or the directory knows it
when it is asked. -/
def Finds (s : Sessions δ) (uniqueId : String) : Prop :=
  s.1.Remembers uniqueId ∨ Directory.Knows s.2 uniqueId

theorem settled_named {s : Sessions δ} (settled : Directory.Settled s.2) (mode : SessionMode)
    (connection : ConnectionId) (uniqueId : String) :
    Directory.Settled (s.named mode connection uniqueId).2 := by
  rcases s.1.resolve_directory s.2 mode connection uniqueId with same | asked
  · rwa [named, same]
  · rw [named, asked]
    exact settled.lookup uniqueId

/-- Over a directory that does not change what it knows, naming an identifier finds no other
numbers than there were, and loses none. -/
theorem finds_named_iff {s : Sessions δ} (settled : Directory.Settled s.2) {mode : SessionMode}
    {connection : ConnectionId} {uniqueId other : String} :
    (s.named mode connection uniqueId).Finds other ↔ s.Finds other := by
  have knows : Directory.Knows (s.named mode connection uniqueId).2 other ↔
      Directory.Knows s.2 other := by
    rcases s.1.resolve_directory s.2 mode connection uniqueId with same | asked
    · rw [named, same]
    · rw [named, asked]
      exact settled [uniqueId] other
  rw [Finds, knows]
  constructor
  · rintro (remembers | known)
    · exact Registry.remembers_or_knows_of_resolve remembers
    · exact .inr known
  · exact fun finds => finds.imp_left fun remembers =>
      remembers.resolve s.2 mode connection uniqueId

theorem bound_append (connection : ConnectionId) (s : Sessions δ) (first second : List String) :
    bound connection s (first ++ second) = bound connection (bound connection s first) second :=
  List.foldl_append

/-- Naming identifiers keeps what cannot be lost by naming one. -/
theorem bound_induction (keeps : Sessions δ → Prop) {connection : ConnectionId}
    (step : ∀ s uniqueId, keeps s → keeps (named .byConnection connection s uniqueId))
    (uniqueIds : List String) {s : Sessions δ} (h : keeps s) :
    keeps (bound connection s uniqueIds) := by
  induction uniqueIds generalizing s with
  | nil => exact h
  | cons uniqueId uniqueIds ih => exact ih (step s uniqueId h)

theorem reliable_bound {connection : ConnectionId} {s : Sessions δ}
    (reliable : Directory.Reliable s.2) (uniqueIds : List String) :
    Directory.Reliable (bound connection s uniqueIds).2 :=
  bound_induction (fun s => Directory.Reliable s.2)
    (fun _ uniqueId h => Registry.reliable_resolve h .byConnection connection uniqueId) uniqueIds
    reliable

end Sessions

namespace Services

variable {δ μ : Type} [Directory δ]

/-- Whether there is a session for a unit that names a device. -/
def Resolves (services : Services δ μ) (connection : ConnectionId) (uniqueId : String) : Prop :=
  ∃ session, (services.resolve .byConnection connection (some uniqueId)).1 = .ok (some session)

theorem Resolves.exists_eq {services : Services δ μ} {connection : ConnectionId} {uniqueId : String}
    (resolves : services.Resolves connection uniqueId) :
    ∃ session after,
      services.resolve .byConnection connection (some uniqueId) = (.ok (some session), after) := by
  obtain ⟨session, result⟩ := resolves
  exact ⟨session, _, Prod.ext result rfl⟩

theorem resolves_of_knows {services : Services δ μ} {uniqueId : String}
    (knows : Directory.Knows services.directory uniqueId) (connection : ConnectionId) :
    services.Resolves connection uniqueId :=
  Registry.exists_resolve_eq_some knows .byConnection connection

end Services

end TrackerGateway
