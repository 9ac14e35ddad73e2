import TrackerGateway.Proofs.Session.Identities
import TrackerGateway.Proofs.Session.Retention

/-!
# Sessions over a directory with constant answers, which may be failures

Whether a registry asks for a number or recalls it, it is then the directory's, and so is the
number in the session of a connection (`Sessions.Accurate`). Nothing that units, closing
connections and last positions do to a registry makes it less accurate.
-/

namespace TrackerGateway

namespace Directory

variable {δ : Type} [Directory δ]

/-- Whether these are the answers of a directory, whatever it was asked before. -/
def Constant (directory : δ) (answers : String → Lookup) : Prop :=
  ∀ (asked : List String) (uniqueId : String),
    (lookup (after directory asked) uniqueId).1 = answers uniqueId

theorem Constant.lookup {directory : δ} {answers : String → Lookup}
    (constant : Constant directory answers) (uniqueId : String) :
    Constant (Directory.lookup directory uniqueId).2 answers :=
  fun asked => constant (uniqueId :: asked)

theorem constant_answers (answers : String → Lookup) : Constant answers answers := by
  intro asked uniqueId
  rw [after_answers]
  rfl

end Directory

theorem Lookup.number?_eq_some_iff {answer : Lookup} {id : DeviceId} :
    answer.number? = some id ↔ answer = .known id := by
  cases answer <;> simp [number?]

namespace Sessions

variable {δ : Type} [Directory δ]

/-- Whether the directory's answers are constant and the numbers that a registry has are its. -/
structure Accurate (answers : String → Lookup) (s : Sessions δ) : Prop where
  constant : Directory.Constant s.2 answers
  identities : ∀ uniqueId id, s.1.identity? uniqueId = some id → answers uniqueId = .known id
  sessions : ∀ connection session, s.1.sessionOf? connection = some session →
    answers session.uniqueId = .known session.deviceId

variable {answers : String → Lookup} {s : Sessions δ}

theorem accurate_empty {directory : δ} (constant : Directory.Constant directory answers) :
    Accurate answers (.empty, directory) where
  constant := constant
  identities := by rintro uniqueId id ⟨⟩
  sessions := by rintro connection session ⟨⟩

theorem Accurate.identified {uniqueId : String} {asker : Option ConnectionId}
    {result : Except Error (Option DeviceId)} {r' : Registry} {directory' : δ}
    (accurate : s.Accurate answers)
    (h : Registry.Identified s.1 s.2 uniqueId asker (result, r', directory')) :
    Accurate answers (r', directory') ∧ ∀ id, result = .ok (some id) →
        answers uniqueId = .known id := by
  have answer : (Directory.lookup s.2 uniqueId).1 = answers uniqueId :=
    accurate.constant [] uniqueId
  rcases h.recalled_or_asked with ⟨id, known, rfl, rfl, rfl⟩ | ⟨-, rfl, later, found⟩
  · refine ⟨accurate, fun id' same => ?_⟩
    cases same
    exact accurate.identities uniqueId id known
  · rw [answer] at later found
    refine ⟨⟨accurate.constant.lookup uniqueId, fun other id known => ?_,
      fun connection session => ?_⟩, fun id ok => Lookup.number?_eq_some_iff.1 (found _ ok).symm⟩
    · rw [later other] at known
      split at known
      · rename_i same
        rw [← same]
        exact Lookup.number?_eq_some_iff.1 known
      · exact accurate.identities other id known
    · rw [h.sessionOf?_eq]
      exact accurate.sessions connection session

/-- Naming an identifier keeps numbers accurate, and the session that a connection is given for it
is of its device. -/
theorem Accurate.resolve (accurate : s.Accurate answers) (mode : SessionMode)
    (connection : ConnectionId) (uniqueId : String) :
    (s.named mode connection uniqueId).Accurate answers ∧
      (mode = .byConnection → ∀ session,
        (s.1.resolve s.2 mode connection (some uniqueId)).1 = .ok (some session) →
          answers uniqueId = .known session.deviceId) := by
  have resolved := s.1.resolved s.2 mode connection uniqueId
  unfold named
  generalize s.1.resolve s.2 mode connection (some uniqueId) = outcome at resolved ⊢
  cases resolved with
  | kept session kept =>
    refine ⟨accurate, fun byConnection session' found => ?_⟩
    cases byConnection
    cases found
    obtain ⟨bound, own⟩ := Option.filter_eq_some_iff.1 kept
    rw [← eq_of_beq own]
    exact accurate.sessions connection session bound
  | unknown _ _ _ identified => exact ⟨(accurate.identified identified).1, nofun⟩
  | failed _ _ _ _ identified => exact ⟨(accurate.identified identified).1, nofun⟩
  | bound id between _ _ identified =>
    obtain ⟨after, number⟩ := accurate.identified identified
    have known := number id rfl
    cases mode with
    | byIdentifier => exact ⟨⟨after.constant, after.identities, after.sessions⟩, nofun⟩
    | byConnection =>
      refine ⟨⟨after.constant, after.identities, fun other session bound => ?_⟩,
        fun _ session found => ?_⟩
      · simp only [Registry.bind, Registry.bindConnection, Registry.log, Registry.sessionOf?,
          Table.get?_put] at bound
        split at bound
        · cases bound
          exact known
        · exact after.sessions other session bound
      · cases found
        exact known

theorem lasting_accurate (connection : ConnectionId) :
    Lasting connection fun s : Sessions δ => s.Accurate answers :=
  fun _ mode uniqueId accurate => (accurate.resolve mode connection uniqueId).1

theorem Accurate.release (accurate : s.Accurate answers) (connection : ConnectionId) :
    Accurate answers ((s.1.release connection).2, s.2) := by
  refine ⟨accurate.constant, ?_, fun other session bound => ?_⟩
  · unfold Registry.release
    split <;> exact accurate.identities
  · rw [Registry.sessionOf?_release] at bound
    split at bound
    · cases bound
    · exact accurate.sessions other session bound

theorem Accurate.withLastPositions (accurate : s.Accurate answers)
    (lastPositions : Table DeviceId Position) :
    Accurate answers ({ s.1 with lastPositions }, s.2) :=
  ⟨accurate.constant, accurate.identities, accurate.sessions⟩

end Sessions
end TrackerGateway
