/-!
# Tables: lists of keys with values, each key at most once when built by `put`

A new key goes to the end and a known key keeps its place. `get?_put` and `get?_erase` say what a
look-up finds after a change, `keys_put` and `keys_erase` which keys there are.
-/

namespace TrackerGateway

/-- Keys with values, in the order in which the keys were first put. -/
abbrev Table (κ α : Type) := List (κ × α)

namespace Table

variable {κ α : Type} [DecidableEq κ]

/-- The value of a key. -/
def get? (table : Table κ α) (key : κ) : Option α :=
  match table with
  | [] => none
  | (k, v) :: rest => if k = key then some v else get? rest key

/-- Gives a key a value, in place of its former one. -/
def put (table : Table κ α) (key : κ) (value : α) : Table κ α :=
  match table with
  | [] => [(key, value)]
  | (k, v) :: rest => if k = key then (key, value) :: rest else (k, v) :: put rest key value

/-- Removes a key. -/
def erase (table : Table κ α) (key : κ) : Table κ α := table.filter fun entry => entry.1 ≠ key

/-- Whether a key has a value. -/
def holds (table : Table κ α) (key : κ) : Bool := (get? table key).isSome

theorem get?_put (table : Table κ α) (key other : κ) (value : α) :
    get? (put table key value) other = if key = other then some value else get? table other := by
  induction table with
  | nil => simp [put, get?]
  | cons entry rest ih =>
    obtain ⟨k, v⟩ := entry
    by_cases hk : k = key
    · subst hk
      by_cases ho : k = other <;> simp [put, get?, ho]
    · by_cases ho : k = other
      · subst ho
        simp [put, get?, hk, Ne.symm hk]
      · simp [put, get?, hk, ho, ih]

theorem get?_erase (table : Table κ α) (key other : κ) :
    get? (erase table key) other = if key = other then none else get? table other := by
  induction table with
  | nil => simp [erase, get?]
  | cons entry rest ih =>
    obtain ⟨k, v⟩ := entry
    unfold erase at ih ⊢
    by_cases hk : k = key
    · subst hk
      by_cases ho : k = other <;> simp_all [get?]
    · by_cases ho : k = other
      · subst ho
        simp [get?, hk, Ne.symm hk]
      · simp only [ne_eq, decide_not] at ih
        simp [get?, hk, ho, ih]

/-! ### Keys -/

/-- The keys of a table, in their order. -/
def keys (table : Table κ α) : List κ := table.map (·.1)

theorem holds_iff_mem_keys (table : Table κ α) (key : κ) :
    holds table key = true ↔ key ∈ keys table := by
  unfold holds
  induction table with
  | nil => simp [get?, keys]
  | cons entry rest ih =>
    obtain ⟨k, v⟩ := entry
    by_cases same : k = key
    · simp [get?, keys, same]
    · rw [get?, if_neg same, ih]
      simp [keys, Ne.symm same]

theorem keys_put (table : Table κ α) (key : κ) (value : α) :
    keys (put table key value) = if holds table key = true then keys table
      else keys table ++ [key] := by
  unfold holds
  induction table with
  | nil => rfl
  | cons entry rest ih =>
    obtain ⟨k, v⟩ := entry
    by_cases same : k = key
    · simp [put, get?, keys, same]
    · simp only [put, get?, same, if_false]
      show k :: keys (put rest key value) = _
      rw [ih]
      split <;> rfl

theorem keys_erase (table : Table κ α) (key : κ) :
    keys (erase table key) = (keys table).filter fun k => k ≠ key := by
  unfold keys erase
  rw [List.filter_map]
  rfl

theorem length_keys_erase {table : Table κ α} {key : κ} (distinct : (keys table).Nodup)
    (known : key ∈ keys table) : (keys (erase table key)).length + 1 = (keys table).length := by
  have erased : keys (erase table key) = (keys table).erase key := by
    rw [keys_erase, distinct.erase_eq_filter]
    exact List.filter_congr fun k _ => by by_cases same : k = key <;> simp [same]
  rw [erased, List.length_erase_of_mem known, Nat.sub_add_cancel (List.length_pos_of_mem known)]

end Table
end TrackerGateway
