import Mathlib.Algebra.Order.Ring.Nat
import TrackerGateway.Bytes.Bits
import TrackerGateway.Text.Integer

/-!
# Computations that a trap can end

A machine has words of a width, and indices that must lie inside of what they index. `Guarded`
makes both visible: a sum that does not fit, a difference below zero, an index or a slice outside,
and a loop that makes no headway each end the computation with a `Trap`. The laws of this module
say where there is none; `loop_eq` is the one induction that all loops need.
-/

namespace TrackerGateway

/-- What ends a computation. -/
inductive Trap where
  /-- An index or a slice outside of what it picks from. -/
  | outside
  /-- A number that its type cannot hold. -/
  | overflow
  /-- A condition that was taken for granted does not hold. -/
  | assertion
  /-- A loop that makes no headway. -/
  | endless
  deriving DecidableEq, Repr

/-- A computation that a trap can end. -/
abbrev Guarded (α : Type) := Except Trap α

namespace Guarded

variable {α β σ : Type}

@[simp] theorem ok_bind (a : α) (f : α → Guarded β) : (Except.ok a >>= f) = f a := rfl

@[simp] theorem pure_eq_ok (a : α) : (pure a : Guarded α) = .ok a := rfl

/-! ### Numbers -/

/-- Goes on where a condition holds. -/
def demand (p : Prop) [Decidable p] : Guarded Unit := if p then .ok () else .error .assertion

/-- What has to be there. -/
def expect : Option α → Guarded α
  | some a => .ok a
  | none => .error .assertion

/-- A number of so many bits. -/
def unsigned (bits n : Nat) : Guarded Nat := if n < 2 ^ bits then .ok n else .error .overflow

/-- A number as a word. -/
def word (n : Nat) : Guarded Nat := unsigned 64 n

/-- A number less another. -/
def less (n m : Nat) : Guarded Nat := if m ≤ n then .ok (n - m) else .error .overflow

/-- A number as an integer of a range. -/
def ranged (range : Text.Integer.Range) (n : Int) : Guarded Int :=
  if range.holds n then .ok n else .error .overflow

/-- A word moved down by places. -/
def down (n places : Nat) : Guarded Nat :=
  if places < 64 then .ok (n >>> places) else .error .overflow

/-- One, moved up by places. -/
def power (places : Nat) : Guarded Nat := if places < 64 then .ok (2 ^ places) else .error .overflow

/-- Whether a bit of a word is set, with a shift that is checked. -/
def isSet (n index : Nat) : Guarded Bool := do
  let moved ← down n index
  pure (moved % 2 != 0)

/-- The number in the bits of a word between two places. -/
def between (n first last : Nat) : Guarded Nat := do
  demand (first ≤ last ∧ last ≤ 64)
  let width ← less last first
  if width = 64 then pure n
  else
    let moved ← down n first
    let mask ← less (← power width) 1
    pure (moved &&& mask)

theorem demand_of {p : Prop} [Decidable p] (h : p) : demand p = .ok () := if_pos h

theorem expect_of_eq {found : Option α} {a : α} (h : found = some a) : expect found = .ok a := by
  rw [h, expect]

theorem unsigned_of_lt {bits n : Nat} (h : n < 2 ^ bits) : unsigned bits n = .ok n := if_pos h

theorem word_of_lt {n : Nat} (h : n < 2 ^ 64) : word n = .ok n := if_pos h

theorem less_of_le {n m : Nat} (h : m ≤ n) : less n m = .ok (n - m) := if_pos h

theorem ranged_of_holds {range : Text.Integer.Range} {n : Int} (h : range.holds n = true) :
    ranged range n = .ok n := if_pos h

theorem down_of_lt {n places : Nat} (h : places < 64) : down n places = .ok (n >>> places) :=
  if_pos h

theorem power_of_lt {places : Nat} (h : places < 64) : power places = .ok (2 ^ places) := if_pos h

theorem isSet_of_lt {n index : Nat} (h : index < 64) :
    isSet n index = .ok (Bits.isSet n index) := by
  rw [isSet, down_of_lt h, Bits.isSet_of_lt h, Nat.testBit, Nat.and_comm, Nat.and_one_is_mod]
  rfl

theorem between_of_lt {n first last : Nat} (ordered : first ≤ last) (h : last < 64) :
    between n first last = .ok (Bits.between n first last) := by
  have positive : 1 ≤ 2 ^ (last - first) := Nat.one_le_two_pow
  have narrow : last - first < 64 := by omega
  simp only [between, demand_of (And.intro ordered (Nat.le_of_lt h)), less_of_le ordered, ok_bind,
    if_neg (Nat.ne_of_lt narrow), down_of_lt (Nat.lt_of_le_of_lt ordered h), power_of_lt narrow,
    less_of_le positive, Nat.and_two_pow_sub_one_eq_mod]
  rfl

/-! ### Places -/

/-- The entry at an index. -/
def entry (xs : List α) (index : Nat) : Guarded α :=
  match xs[index]? with
  | some x => .ok x
  | none => .error .outside

/-- The entries from a place up to another. -/
def slice (xs : List α) (first last : Nat) : Guarded (List α) :=
  if first ≤ last ∧ last ≤ xs.length then .ok ((xs.drop first).take (last - first))
  else .error .outside

/-- The entries from a place on. -/
def after (xs : List α) (first : Nat) : Guarded (List α) := slice xs first xs.length

/-- The entries before a place and those from there on. -/
def cut (xs : List α) (place : Nat) : Guarded (List α × List α) := do
  let front ← slice xs 0 place
  let rest ← after xs place
  pure (front, rest)

/-- The place of the first entry like this, from a place on. -/
def find [BEq α] (xs : List α) (first : Nat) (x : α) : Guarded (Option Nat) :=
  if first ≤ xs.length then
    match (xs.drop first).findIdx? (· == x) with
    | some offset => do
      let place ← word (first + offset)
      pure (some place)
    | none => pure none
  else pure none

theorem entry_of_getElem? {xs : List α} {index : Nat} {x : α} (h : xs[index]? = some x) :
    entry xs index = .ok x := by
  rw [entry, h]

theorem slice_of_le {xs : List α} {first last : Nat} (ordered : first ≤ last)
    (inside : last ≤ xs.length) :
    slice xs first last = .ok ((xs.drop first).take (last - first)) := if_pos ⟨ordered, inside⟩

theorem after_of_le {xs : List α} {first : Nat} (inside : first ≤ xs.length) :
    after xs first = .ok (xs.drop first) := by
  rw [after, slice_of_le inside (Nat.le_refl _),
    List.take_of_length_le (Nat.le_of_eq List.length_drop)]

theorem cut_of_le {xs : List α} {place : Nat} (inside : place ≤ xs.length) :
    cut xs place = .ok (xs.take place, xs.drop place) := by
  rw [cut, slice_of_le (Nat.zero_le _) inside, after_of_le inside]
  rfl

theorem find_of_le [BEq α] {xs : List α} {first : Nat} {x : α} (inside : first ≤ xs.length)
    (held : xs.length < 2 ^ 64) :
    find xs first x = .ok (((xs.drop first).findIdx? (· == x)).map (first + ·)) := by
  rw [find, if_pos inside]
  cases found : (xs.drop first).findIdx? (· == x) with
  | none => rfl
  | some offset =>
    have within := (List.findIdx?_eq_some_iff_findIdx_eq.1 found).1
    rw [List.length_drop] at within
    simp only [word_of_lt (Nat.lt_of_le_of_lt (by omega : first + offset ≤ xs.length) held)]
    rfl

/-! ### Places in what is put together -/

theorem slice_of_parts {xs front part rest : List α} {first last : Nat}
    (whole : xs = front ++ (part ++ rest)) (start : first = front.length)
    (stop : last = front.length + part.length) : slice xs first last = .ok part := by
  subst whole start stop
  rw [slice_of_le (Nat.le_add_right _ _) (by simp), List.drop_left, Nat.add_sub_cancel_left,
    List.take_left]

theorem after_of_parts {xs front rest : List α} {first : Nat} (whole : xs = front ++ rest)
    (start : first = front.length) : after xs first = .ok rest := by
  subst whole start
  rw [after_of_le (by simp), List.drop_left]

theorem findIdx?_of_notMem [BEq α] [LawfulBEq α] {xs : List α} {x : α} (absent : x ∉ xs) :
    xs.findIdx? (· == x) = none := by
  refine List.findIdx?_eq_none_iff.2 fun y member => ?_
  have : y ≠ x := fun same => absent (same ▸ member)
  simpa using this

theorem findIdx?_append_cons [BEq α] [LawfulBEq α] {part : List α} {x : α} (absent : x ∉ part)
    (rest : List α) : (part ++ x :: rest).findIdx? (· == x) = some part.length := by
  rw [List.findIdx?_append, findIdx?_of_notMem absent, List.findIdx?_cons, beq_self_eq_true]
  simp

theorem find_of_parts [BEq α] {xs front rest : List α} {first : Nat} {x : α}
    (whole : xs = front ++ rest) (start : first = front.length) (held : xs.length < 2 ^ 64) :
    find xs first x = .ok ((rest.findIdx? (· == x)).map (first + ·)) := by
  have inside : first ≤ xs.length := by
    rw [whole, start, List.length_append]
    exact Nat.le_add_right _ _
  rw [find_of_le inside held, whole, start, List.drop_left]

/-! ### Loops -/

/-- Takes turns until there is a result. -/
def loop (measure : σ → Nat) (turn : σ → Guarded (σ ⊕ β)) (s : σ) : Guarded β :=
  match turn s with
  | .error trap => .error trap
  | .ok (.inr result) => .ok result
  | .ok (.inl next) => if measure next < measure s then loop measure turn next else .error .endless
termination_by measure s

/-- A loop whose every turn keeps what is good and makes headway ends as its last turn does. -/
theorem loop_ends {measure : σ → Nat} {turn : σ → Guarded (σ ⊕ β)} (good : σ → Prop)
    {ends : β → Prop}
    (turns : ∀ s, good s → (∃ result, turn s = .ok (.inr result) ∧ ends result) ∨
      ∃ next, turn s = .ok (.inl next) ∧ good next ∧ measure next < measure s) {s : σ}
    (start : good s) : ∃ result, loop measure turn s = .ok result ∧ ends result := by
  induction size : measure s using Nat.strongRecOn generalizing s with
  | ind _ ih =>
    rw [loop]
    obtain ⟨result, done, holds⟩ | ⟨next, on, good, headway⟩ := turns s start
    · exact ⟨result, by rw [done], holds⟩
    · rw [on]
      simp only [if_pos headway]
      exact ih _ (size ▸ headway) good rfl

/-- A loop whose every turn agrees with a function and makes headway computes that function. -/
theorem loop_eq {measure : σ → Nat} {turn : σ → Guarded (σ ⊕ β)} (good : σ → Prop) (f : σ → β)
    (turns : ∀ s, good s → turn s = .ok (.inr (f s)) ∨
      ∃ next, turn s = .ok (.inl next) ∧ good next ∧ measure next < measure s ∧ f s = f next)
    {s : σ} (start : good s) : loop measure turn s = .ok (f s) := by
  have ends : ∃ result, loop measure turn s = .ok result ∧ f s = result := by
    refine loop_ends (fun other => good other ∧ f s = f other) (fun other ⟨isGood, same⟩ => ?_)
      ⟨start, rfl⟩
    obtain done | ⟨next, on, goodNext, headway, kept⟩ := turns other isGood
    · exact .inl ⟨f other, done, same⟩
    · exact .inr ⟨next, on, ⟨goodNext, same.trans kept⟩, headway⟩
  obtain ⟨_, looped, rfl⟩ := ends
  exact looped

end Guarded
end TrackerGateway
