import TrackerGateway.Proofs.Session.Lookup

/-!
# Directories that fail

A unit whose device cannot be looked up fails with what the directory tells
(`Registry.lookup_of_resolve_error`). A `Plain` directory tells no more than that it failed. A
`Forgiving` one answers as the directory in it does, but takes a failure for an identifier that is
not known.
-/

namespace TrackerGateway

/-- The answer, or that the identifier is not known if there is none. -/
def Lookup.forgiven : Lookup → Lookup
  | .failed _ => .unknown
  | answer => answer

/-- A directory whose failures go for identifiers that it does not know. -/
structure Forgiving (δ : Type) where
  directory : δ

instance {δ : Type} [Directory δ] : Directory (Forgiving δ) where
  lookup forgiving uniqueId :=
    let (answer, directory) := Directory.lookup forgiving.directory uniqueId
    (answer.forgiven, ⟨directory⟩)

variable {δ : Type} [Directory δ]

namespace Directory

/-- Whether a directory that fails says only that, whatever it was asked before. -/
def Plain (directory : δ) : Prop :=
  ∀ (asked : List String) (uniqueId : String) (error : Error),
    (lookup (after directory asked) uniqueId).1 = .failed error →
      ∃ reason, error = .directory reason

theorem Plain.lookup {directory : δ} (plain : Plain directory) (uniqueId : String) :
    Plain (Directory.lookup directory uniqueId).2 :=
  fun asked => plain (uniqueId :: asked)

/-- A directory that never changes is plain if none of its answers is another failure. -/
theorem plain_answers {answers : String → Lookup}
    (h : ∀ uniqueId error, answers uniqueId = .failed error → ∃ reason, error = .directory reason) :
    Plain answers := by
  intro asked uniqueId error
  rw [after_answers]
  exact h uniqueId error

theorem Reliable.plain {directory : δ} (reliable : Reliable directory) : Plain directory :=
  fun asked uniqueId error failed => absurd failed (reliable asked uniqueId error)

/-- A failure of a plain directory costs no more than what was looked up. -/
theorem Plain.isFatal_eq_false {directory : δ} (plain : Plain directory) {uniqueId : String}
    {error : Error} (failed : (Directory.lookup directory uniqueId).1 = .failed error) :
    error.isFatal = false := by
  obtain ⟨reason, rfl⟩ := plain [] uniqueId error failed
  rfl

end Directory

namespace Registry

theorem plain_resolve {r : Registry} {directory : δ} (plain : Directory.Plain directory)
    (mode : SessionMode) (connection : ConnectionId) (uniqueId : String) :
    Directory.Plain (r.resolve directory mode connection (some uniqueId)).2.2 := by
  rcases r.resolve_directory directory mode connection uniqueId with same | asked
  · rwa [same]
  · rw [asked]
    exact plain.lookup uniqueId

/-- Only the directory makes the search for a session fail. -/
theorem lookup_of_resolve_error {r : Registry} {directory : δ} {mode : SessionMode}
    {connection : ConnectionId} {uniqueId : String} {error : Error}
    (failed : (r.resolve directory mode connection (some uniqueId)).1 = .error error) :
    (Directory.lookup directory uniqueId).1 = .failed error := by
  have resolved := r.resolved directory mode connection uniqueId
  generalize r.resolve directory mode connection (some uniqueId) = outcome at failed resolved
  cases resolved with
  | kept session kept => cases failed
  | bound id r' directory' new identified => cases failed
  | unknown r' directory' new identified => cases failed
  | failed cause r' directory' new identified =>
    cases failed
    cases identified with
    | failed _ _ answer => exact answer

end Registry
end TrackerGateway
