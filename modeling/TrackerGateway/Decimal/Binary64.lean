/-!
# Binary floating point numbers of 64 bits, by their exact values

`parts` takes a finite number apart into a sign, an integer `m` and an exponent `q`, where the
magnitude is `m * 2 ^ q`; `nearest` is the way back from an exact quotient, rounding to the nearest
number and a tie to the even one.
-/

namespace TrackerGateway.Binary64

/-- The sign, the integer and the exponent of a finite number. -/
structure Parts where
  negative : Bool
  mantissa : Nat
  exponent : Int
  deriving DecidableEq, Repr

/-- The bits of the exponent field. -/
def exponentField (bits : UInt64) : Nat := (bits >>> 52).toNat % 2048

/-- The bits of the fraction field. -/
def fractionField (bits : UInt64) : Nat := bits.toNat % Nat.pow 2 52

/-- Whether the sign bit is set. -/
def isNegative (bits : UInt64) : Bool := bits.toNat / Nat.pow 2 63 == 1

/-- Whether the bits are those of a number, not of an infinity or a NaN. -/
def isFinite (bits : UInt64) : Bool := exponentField bits != 2047

/-- Whether the bits are those of a NaN. -/
def isNaN (bits : UInt64) : Bool := exponentField bits == 2047 && fractionField bits != 0

/-- Takes a finite number apart. -/
def parts (bits : UInt64) : Parts :=
  let e := exponentField bits
  let f := fractionField bits
  if e = 0 then ⟨isNegative bits, f, -1074⟩
  else ⟨isNegative bits, Nat.pow 2 52 + f, (e : Int) - 1075⟩

/-- `num / den` rounded to an integer, a tie to the even one. -/
def roundDiv (num den : Nat) : Nat :=
  let q := num / den
  let r := num % den
  if 2 * r < den then q else if den < 2 * r then q + 1 else q + q % 2

/-- `num / (den * 2 ^ e)` rounded to an integer. -/
def roundScaled (num den : Nat) (e : Int) : Nat :=
  if 0 ≤ e then roundDiv num (den * Nat.pow 2 e.toNat)
  else roundDiv (num * Nat.pow 2 (-e).toNat) den

/-- The bits of `m * 2 ^ e` for `m ≤ 2 ^ 53` and `-1074 ≤ e`; infinity where it is too large. -/
def assemble (m : Nat) (e : Int) : Nat :=
  let (m, e) := if m = Nat.pow 2 53 then (Nat.pow 2 52, e + 1) else (m, e)
  if m < Nat.pow 2 52 then m
  else if 971 < e then 2047 * Nat.pow 2 52
  else (e + 1075).toNat * Nat.pow 2 52 + (m - Nat.pow 2 52)

/-- The bits of the number nearest to `num / den`, for a positive `den`. -/
def nearest (negative : Bool) (num den : Nat) : UInt64 :=
  let magnitude :=
    if num = 0 then 0
    else
      -- the quotient is above 2 ^ (low + 52) and below 2 ^ (low + 54), unless `low` is the least
      let low := max ((Nat.log2 num : Int) - Nat.log2 den - 53) (-1074)
      let m := roundScaled num den low
      if m ≤ Nat.pow 2 53 then assemble m low
      else assemble (roundScaled num den (low + 1)) (low + 1)
  UInt64.ofNat (magnitude + if negative then Nat.pow 2 63 else 0)

/-- The bits of plus or minus infinity. -/
def infinity (negative : Bool) : UInt64 :=
  if negative then 0xFFF0000000000000 else 0x7FF0000000000000

/-- The number nearest to `digits * 10 ^ exponent`. -/
def ofDecimal (negative : Bool) (digits : Nat) (exponent : Int) : UInt64 :=
  if digits = 0 then nearest negative 0 1
  else if 310 < exponent then infinity negative
  else if exponent + ((Nat.log2 digits * 31 / 100 : Nat) : Int) + 1 < -330 then
    -- less than 10 ^ -330, and half of the least positive number is more
    nearest negative 0 1
  else if 0 ≤ exponent then nearest negative (digits * Nat.pow 10 exponent.toNat) 1
  else nearest negative digits (Nat.pow 10 (-exponent).toNat)

end TrackerGateway.Binary64
