import Mathlib.Data.List.GetD
import TrackerGateway.Proofs.Sentence.Numbers

/-!
# Digits and blanks

No decimal digit of any script is a blank (`isBlank_of_isDigit`). The table of categories is an
array put together from parts; searched as a list (`category_eq`), it can be evaluated at the
blanks.
-/

namespace TrackerGateway.Text

/-- `lastAtMost` on a list. -/
def lastAtMostIn (table : List Nat) (key : Nat) : Nat → Nat → Nat → Nat
  | 0, low, _ => low
  | steps + 1, low, high =>
    if high ≤ low + 1 then low
    else
      let middle := (low + high) / 2
      if table.getD middle 0 ≤ key then lastAtMostIn table key steps middle high
      else lastAtMostIn table key steps low middle

theorem getD_toList (table : Array Nat) (index : Nat) :
    table.getD index 0 = table.toList.getD index 0 := by
  simp [Array.getD_eq_getD_getElem?, List.getD_eq_getElem?_getD]

theorem lastAtMost_eq (table : Array Nat) (key steps low high : Nat) :
    lastAtMost table key steps low high = lastAtMostIn table.toList key steps low high := by
  induction steps generalizing low high with
  | zero => rfl
  | succ steps ih => simp only [lastAtMost, lastAtMostIn, ih, getD_toList]

/-- The category of a code point in a list of runs. -/
def categoryIn (table : List Nat) (size n : Nat) : Category :=
  Category.all.getD (table.getD (lastAtMostIn table (32 * n + 31) size 0 size) 0 % 32) .unassigned

theorem category_eq (c : Char) :
    category c = categoryIn CategoryTable.runs.toList CategoryTable.runs.toList.length c.toNat := by
  rw [category, categoryIn, lastAtMost_eq, getD_toList, Array.length_toList]

/-- The blanks that are not in ASCII. -/
def wideBlanks : List Nat :=
  [133, 160, 5760] ++ List.range' 8192 11 ++ [8232, 8233, 8239, 8287, 12288]

theorem mem_wideBlanks {c : Char} (blank : isBlank c = true) (wide : 128 ≤ c.toNat) :
    c.toNat ∈ wideBlanks := by
  simp only [isBlank, inRanges, blankRanges, List.any_cons, List.any_nil, Bool.or_false,
    Bool.or_eq_true, Bool.and_eq_true, decide_eq_true_eq] at blank
  simp only [wideBlanks, List.mem_append, List.mem_cons, List.not_mem_nil, List.mem_range'_1,
    or_false]
  omega

/-- No digit of any script is a blank. -/
theorem isBlank_of_isDigit {c : Char} (digit : isDigit c = true) : isBlank c = false := by
  rw [← Bool.not_eq_true]
  intro blank
  rw [isDigit] at digit
  split at digit
  · simp only [isBlank, inRanges, blankRanges, List.any_cons, List.any_nil, Bool.or_false,
      Bool.or_eq_true, Bool.and_eq_true, decide_eq_true_eq] at blank
    have range := Decimal.isAsciiDigit_iff.1 digit
    omega
  · rename_i wide
    have other : ∀ n ∈ wideBlanks,
        categoryIn CategoryTable.runs.toList CategoryTable.runs.toList.length n ≠
            .decimalNumber := by
      rw [CategoryTable.runs]
      simp only [Array.toList_append, List.length_append, List.append_assoc]
      decide +kernel
    rw [category_eq, beq_iff_eq] at digit
    exact other _ (mem_wideBlanks blank (Nat.not_lt.1 wide)) digit

end TrackerGateway.Text
