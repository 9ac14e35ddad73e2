import TrackerGateway.Decimal.Binary64

/-!
# The shortest decimal that reads back as a given binary number

A finite number stands for all reals nearer to it than to its neighbours, the midpoints included
where its integer is even. `shortest` finds the coarsest power of ten of which a multiple lies among
those reals, and of its multiples the nearest to the number. A `Style` says how the digits found are
laid out.
-/

namespace TrackerGateway.Decimal

open TrackerGateway.Binary64

/-- A decimal `digits * 10 ^ exponent`. -/
structure Scaled where
  digits : Nat
  exponent : Int
  deriving DecidableEq, Repr

/-- Which of two multiples at the same distance is taken. -/
inductive Tie where
  | upward
  | even
  deriving DecidableEq, Repr

/-- The reals that stand for a number, and the number itself, over a common denominator. -/
structure Interval where
  low : Nat
  value : Nat
  high : Nat
  den : Nat
  closed : Bool
  deriving DecidableEq, Repr

/-- The interval of a positive number. -/
def Interval.of (p : Parts) : Interval :=
  let m := p.mantissa
  let below := if m = Nat.pow 2 52 ∧ p.exponent ≠ -1074 then 1 else 2
  let scale := if 0 ≤ p.exponent then Nat.pow 2 p.exponent.toNat else 1
  let den := if 0 ≤ p.exponent then 4 else 4 * Nat.pow 2 (-p.exponent).toNat
  ⟨(4 * m - below) * scale, 4 * m * scale, (4 * m + 2) * scale, den, m % 2 == 0⟩

/-- Whether `n` units lie in the interval, where the unit is `unit / scale` of the denominator. -/
def Interval.contains (i : Interval) (unit scale n : Nat) : Bool :=
  let x := n * unit
  if i.closed then i.low * scale ≤ x && x ≤ i.high * scale
  else i.low * scale < x && x < i.high * scale

/-- The nearest multiple of `10 ^ exponent` to the number, if one lies in the interval. -/
def Interval.multiple? (i : Interval) (tie : Tie) (exponent : Int) : Option Nat :=
  let unit := if 0 ≤ exponent then i.den * Nat.pow 10 exponent.toNat else i.den
  let scale := if 0 ≤ exponent then 1 else Nat.pow 10 (-exponent).toNat
  let value := i.value * scale
  let n := value / unit
  let r := value % unit
  let lower := i.contains unit scale n && n != 0
  let upper := i.contains unit scale (n + 1)
  let upperNearer : Bool := match tie with
    | .upward => decide (unit ≤ 2 * r)
    | .even => decide (unit < 2 * r) || (unit == 2 * r && n % 2 == 1)
  if lower && upper then some (if upperNearer then n + 1 else n)
  else if lower then some n
  else if upper then some (n + 1)
  else none

/-- Tries finer and finer powers of ten. -/
def Interval.search (i : Interval) (tie : Tie) : Nat → Int → Scaled
  | 0, exponent => ⟨0, exponent⟩
  | steps + 1, exponent =>
    match i.multiple? tie exponent with
    | some n => ⟨n, exponent⟩
    | none => i.search tie steps (exponent - 1)

/-- The shortest decimal of a positive number. Twenty-two powers reach from one above the number
down to its seventeenth digit and beyond. -/
def shortest (tie : Tie) (p : Parts) : Scaled :=
  let start := ((Nat.log2 p.mantissa : Int) + p.exponent) * 30103 / 100000 + 2
  (Interval.of p).search tie 22 start

/-- How a number is written. -/
structure Style where
  /-- Of two nearest decimals. -/
  tie : Tie
  /-- Whether a number is written without an exponent, by where its point stands: so many places
  after its first digit. -/
  positional : Int → Bool
  /-- Ends a number that has no fraction and no exponent. -/
  wholeEnd : String

/-- The digits with a point after `point` of them. -/
def placed (style : Style) (digits : List Char) (point : Int) : List Char :=
  let size : Int := digits.length
  if size ≤ point then
    digits ++ List.replicate (point - size).toNat '0' ++ style.wholeEnd.toList
  else if 0 < point then
    digits.take point.toNat ++ '.' :: digits.drop point.toNat
  else '0' :: '.' :: List.replicate (-point).toNat '0' ++ digits

/-- The digits with a point after the first and an exponent. -/
def withExponent (digits : List Char) (point : Int) : List Char :=
  let lead := match digits with
    | d :: rest => if rest.isEmpty then [d] else d :: '.' :: rest
    | [] => []
  lead ++ 'e' :: (toString (point - 1)).toList

/-- Writes a finite number. -/
def Style.write (style : Style) (bits : UInt64) : String :=
  let p := parts bits
  let sign := if p.negative then ['-'] else []
  if p.mantissa = 0 then String.ofList (sign ++ '0' :: style.wholeEnd.toList)
  else
    let s := shortest style.tie p
    let digits := Nat.toDigits 10 s.digits
    let point := digits.length + s.exponent
    String.ofList (sign ++ if style.positional point then placed style digits point
      else withExponent digits point)

/-- Numbers in messages: never an exponent, no point where there is no fraction. -/
def plain : Style := ⟨.upward, fun _ => true, ""⟩

/-- Numbers in data: an exponent from 10 ^ 16 on and below 10 ^ -5, and a fraction always. -/
def exchange : Style := ⟨.even, fun point => -5 < point && point ≤ 16, ".0"⟩

/-- Any number in a message. -/
def display (x : Float) : String :=
  let bits := x.toBits
  if isFinite bits then plain.write bits
  else if isNaN bits then "NaN"
  else if isNegative bits then "-inf" else "inf"

end TrackerGateway.Decimal
