import Mathlib.Data.Nat.Digits.Lemmas
import TrackerGateway.Bytes.Basic

/-!
# Numbers by their digits

A number that is read digit by digit, the highest first, is the one that `Nat.ofDigits` makes of
the digits, which has the lowest first (`foldl_digits`). So the numbers in octets are those of
digits to the base 256, in one order or the other (`le_eq_little`, `be_eq_big`), and half of them
can stand for negative numbers (`signed_eq_twosComplement`).
-/

namespace TrackerGateway

theorem foldl_digits {α : Type} (base : Nat) (digit : α → Nat) (xs : List α) :
    xs.foldl (fun n x => base * n + digit x) 0 = Nat.ofDigits base (xs.reverse.map digit) := by
  rw [Nat.ofDigits_eq_foldr, List.foldr_map, List.foldr_reverse]
  simp only [Nat.cast_id, Nat.add_comm]

namespace Bytes

/-- The number of octets, least significant first. -/
def little (octets : Bytes) : Nat := Nat.ofDigits 256 (octets.map (·.toNat))

/-- The number of octets, most significant first. -/
def big (octets : Bytes) : Nat := little octets.reverse

/-- A number of so many bits, of which the highest is the sign. -/
def twosComplement (bits n : Nat) : Int := if n < 2 ^ (bits - 1) then n else n - 2 ^ bits

theorem le_eq_little (octets : Bytes) : le octets = little octets := by
  induction octets with
  | nil => rfl
  | cons octet rest ih => rw [le, ih, little, little, List.map_cons, Nat.ofDigits_cons]

theorem be_eq_big (octets : Bytes) : be octets = big octets :=
  (foldl_digits 256 UInt8.toNat octets).trans rfl

theorem signed_eq_twosComplement {bits n : Nat} (small : n < 2 ^ bits) :
    signed bits n = twosComplement bits n := by
  have half : ((2 ^ bits : Nat) + 1) / 2 = 2 ^ (bits - 1) := by
    cases bits with
    | zero => rfl
    | succ bits =>
      rw [Nat.add_sub_cancel, Nat.pow_succ]
      omega
  have half : (((2 ^ bits : Nat) : Int) + 1) / 2 = ((2 ^ (bits - 1) : Nat) : Int) := by
    rw [← half]
    push_cast
    rfl
  have whole : (n : Int) % (2 ^ bits : Nat) = n :=
    Int.emod_eq_of_lt (by omega) (by exact_mod_cast small)
  rw [signed, twosComplement, Int.bmod, show Nat.pow 2 bits = 2 ^ bits from rfl, whole, half]
  by_cases low : n < 2 ^ (bits - 1)
  · rw [if_pos low, if_pos (by exact_mod_cast low)]
  · rw [if_neg low, if_neg (by exact_mod_cast low)]
    push_cast
    rfl

end Bytes
end TrackerGateway
