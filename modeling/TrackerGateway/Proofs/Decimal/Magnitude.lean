import Mathlib
import TrackerGateway.Decimal.Reading

/-!
# The sign of numbers that were read without one

A number nearest to a positive quotient has its sign bit clear (`toNat_nearest_lt`), and a number
with its sign bit clear is its own magnitude (`Float.abs_ofBits`).
-/

namespace TrackerGateway

namespace Binary64

theorem roundDiv_le {num den bound : Nat} (small : num < bound * den) :
    roundDiv num den ≤ bound := by
  have quotient : num / den < bound := Nat.div_lt_of_lt_mul (Nat.mul_comm bound den ▸ small)
  unfold roundDiv
  dsimp only
  split
  · exact Nat.le_of_lt quotient
  · split <;> omega

/-- A quotient that needs no more than 53 bits before the point is rounded to a number of these. -/
theorem roundScaled_le {num den : Nat} (positive : 0 < den) {e : Int}
    (small : (Nat.log2 num : Int) + 1 ≤ Nat.log2 den + 53 + e) :
    roundScaled num den e ≤ 2 ^ 53 := by
  have above : num < 2 ^ (Nat.log2 num + 1) := Nat.lt_log2_self
  have below : 2 ^ Nat.log2 den ≤ den := Nat.log2_self_le (Nat.ne_of_gt positive)
  unfold roundScaled
  split
  · rename_i whole
    apply roundDiv_le
    calc num < 2 ^ (Nat.log2 num + 1) := above
      _ ≤ 2 ^ (53 + (Nat.log2 den + e.toNat)) := Nat.pow_le_pow_right (by decide) (by omega)
      _ = 2 ^ 53 * (2 ^ Nat.log2 den * 2 ^ e.toNat) := by rw [Nat.pow_add, Nat.pow_add]
      _ ≤ 2 ^ 53 * (den * Nat.pow 2 e.toNat) := Nat.mul_le_mul_left _ (Nat.mul_le_mul_right _ below)
  · rename_i fraction
    apply roundDiv_le
    calc num * 2 ^ (-e).toNat < 2 ^ (Nat.log2 num + 1) * 2 ^ (-e).toNat :=
          Nat.mul_lt_mul_of_pos_right above (Nat.two_pow_pos _)
      _ = 2 ^ (Nat.log2 num + 1 + (-e).toNat) := (Nat.pow_add ..).symm
      _ ≤ 2 ^ (53 + Nat.log2 den) := Nat.pow_le_pow_right (by decide) (by omega)
      _ = 2 ^ 53 * 2 ^ Nat.log2 den := Nat.pow_add ..
      _ ≤ 2 ^ 53 * den := Nat.mul_le_mul_left _ below

theorem assemble_lt {m : Nat} {e : Int} (small : m ≤ 2 ^ 53) : assemble m e < 2 ^ 63 := by
  have below {m : Nat} {e : Int} (small : m < 2 ^ 53) :
      (if m < Nat.pow 2 52 then m else if 971 < e then 2047 * Nat.pow 2 52
        else (e + 1075).toNat * Nat.pow 2 52 + (m - Nat.pow 2 52)) < 2 ^ 63 := by
    have power : Nat.pow 2 52 = 4503599627370496 := rfl
    rw [power]
    split
    · omega
    · split <;> omega
  unfold assemble
  by_cases full : m = Nat.pow 2 53
  · simp only [if_pos full]
    exact below (by decide)
  · simp only [if_neg full]
    exact below (Nat.lt_of_le_of_ne small full)

/-- The number nearest to a quotient of natural numbers has its sign bit clear. -/
theorem toNat_nearest_lt (num : Nat) {den : Nat} (positive : 0 < den) :
    (nearest false num den).toNat < 2 ^ 63 := by
  suffices magnitude : ∀ magnitude : Nat, magnitude < 2 ^ 63 →
      (UInt64.ofNat (magnitude + if false then Nat.pow 2 63 else 0)).toNat < 2 ^ 63 by
    unfold nearest
    refine magnitude _ ?_
    split
    · decide
    · dsimp only
      split
      · rename_i small
        exact assemble_lt small
      · refine assemble_lt (roundScaled_le positive ?_)
        omega
  intro magnitude small
  exact Nat.lt_of_le_of_lt (Nat.mod_le _ _) small

theorem toNat_ofDecimal_lt (digits : Nat) (exponent : Int) :
    (ofDecimal false digits exponent).toNat < 2 ^ 63 := by
  unfold ofDecimal
  split
  · exact toNat_nearest_lt 0 (by decide)
  split
  · decide
  split
  · exact toNat_nearest_lt 0 (by decide)
  split
  · exact toNat_nearest_lt _ (by decide)
  · exact toNat_nearest_lt _ (Nat.pow_pos (by decide))

/-! ### Magnitudes -/

open Float.Model Float.Model.UnpackedFloat

/-- A number whose sign bit is clear is its own magnitude. -/
theorem abs_ofBits {bits : UInt64} (clear : bits.toNat < 2 ^ 63) :
    (Float.ofBits bits).abs = Float.ofBits bits := by
  have sign : Sign.ofBitVec (@unpackSign Format.binary64 bits.toBitVec) = .positive := by
    have zero : @unpackSign Format.binary64 bits.toBitVec = 0#1 := by
      apply BitVec.eq_of_toNat_eq
      show (bits.toBitVec.extractLsb' 63 1).toNat = 0
      rw [BitVec.extractLsb'_toNat, Nat.shiftRight_eq_div_pow]
      show bits.toNat / 2 ^ 63 % 2 ^ 1 = 0
      omega
    rw [zero]
    rfl
  have positive : (UnpackedFloat.unpack Format.binary64 bits.toBitVec).abs =
      UnpackedFloat.unpack Format.binary64 bits.toBitVec := by
    unfold UnpackedFloat.unpack
    dsimp only
    rw [sign]
    split
    · split <;> rfl
    · split
      · split <;> rfl
      · rfl
  show Float.ofModel (Float.Model.pack (UnpackedFloat.abs (UnpackedFloat.unpack Format.binary64
    (UnpackedFloat.pack Format.binary64 (UnpackedFloat.unpack Format.binary64 bits.toBitVec))))) =
      Float.ofModel (Float.Model.pack (UnpackedFloat.unpack Format.binary64 bits.toBitVec))
  by_cases isNaN : @isNaNBits Format.binary64 bits.toBitVec = true
  · obtain ⟨exponent, mantissa⟩ := of_decide_eq_true isNaN
    have unknown : UnpackedFloat.unpack Format.binary64 bits.toBitVec = .notANumber := by
      simp [UnpackedFloat.unpack, exponent, mantissa]
    rw [unknown]
    rfl
  · rw [pack_unpack, if_neg isNaN, positive]

end Binary64
end TrackerGateway
