import TrackerGateway.Proofs.Session.Lookup

/-!
# The identities that a registry has on record

An identity is on record once the directory has given its number. Looking an identifier up finds
that number, or asks the directory and puts on record what it says
(`Identified.recalled_or_asked`); it touches no session.
-/

namespace TrackerGateway

/-- The number in an answer of a directory. -/
def Lookup.number? : Lookup → Option DeviceId
  | .known id => some id
  | _ => none

namespace Registry

/-- The number that is on record for an identifier. -/
def identity? (r : Registry) (uniqueId : String) : Option DeviceId :=
  (Table.get? r.identities uniqueId).join

variable {δ : Type} [Directory δ] {r r' : Registry} {directory directory' : δ} {uniqueId : String}
  {asker : Option ConnectionId} {result : Except Error (Option DeviceId)}

theorem Identified.connections_eq
    (h : Identified r directory uniqueId asker (result, r', directory')) :
    r'.connections = r.connections := by
  cases h <;> rfl

theorem Identified.identifiers_eq
    (h : Identified r directory uniqueId asker (result, r', directory')) :
    r'.identifiers = r.identifiers := by
  cases h <;> rfl

/-- Either the number was on record, and nothing is changed, or the directory was asked: then its
number, if it gave one, is what is found and what is on record. -/
theorem Identified.recalled_or_asked
    (h : Identified r directory uniqueId asker (result, r', directory')) :
    (∃ id, r.identity? uniqueId = some id ∧ result = .ok (some id) ∧ r' = r ∧
        directory' = directory) ∨
      (r.identity? uniqueId = none ∧ directory' = (Directory.lookup directory uniqueId).2 ∧
        (∀ other, r'.identity? other =
          if uniqueId = other then (Directory.lookup directory uniqueId).1.number?
          else r.identity? other) ∧
        ∀ found, result = .ok found → found = (Directory.lookup directory uniqueId).1.number?) := by
  cases h with
  | remembered id kept =>
    left
    refine ⟨id, ?_, rfl, rfl, rfl⟩
    rw [identity?, kept]
    rfl
  | known id new answer =>
    right
    refine ⟨new, rfl, fun other => ?_, fun found ok => ?_⟩
    · rw [identity?, Table.get?_put, answer]
      split <;> rfl
    · cases ok
      rw [answer]
      rfl
  | unknown new answer =>
    right
    refine ⟨new, rfl, fun other => ?_, fun found ok => ?_⟩
    · rw [identity?, Table.get?_erase, answer]
      split <;> rfl
    · cases ok
      rw [answer]
      rfl
  | failed error new answer =>
    right
    refine ⟨new, rfl, fun other => ?_, fun found ok => ?_⟩
    · rw [identity?, Table.get?_put, answer]
      split <;> rfl
    · cases ok

end Registry
end TrackerGateway
