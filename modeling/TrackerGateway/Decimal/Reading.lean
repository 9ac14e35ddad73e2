import TrackerGateway.Decimal.Binary64
import TrackerGateway.Text.Category

/-!
# Binary numbers from decimal text

A number is an optional sign and either a word for infinity or no number, or digits with an optional
point and an optional exponent, with a digit on at least one side of the point. The result is the
number nearest to the text's value.
-/

namespace TrackerGateway.Decimal

open TrackerGateway.Text (isAsciiDigit)

/-- Digits, a fraction and an exponent, as text. -/
structure Literal where
  whole : List Char
  fraction : List Char
  exponent : Int
  deriving DecidableEq, Repr

/-- The value of a run of digits. -/
def digitsValue (digits : List Char) : Nat :=
  digits.foldl (fun n c => 10 * n + (c.toNat - 48)) 0

/-- Takes an optional sign off a text. -/
def unsigned : List Char → Bool × List Char
  | '-' :: rest => (true, rest)
  | '+' :: rest => (false, rest)
  | rest => (false, rest)

/-- The exponent at the end of a literal: nothing, or a letter, a sign and digits. -/
def exponent? : List Char → Option Int
  | [] => some 0
  | c :: rest =>
    if c = 'e' ∨ c = 'E' then
      let (negative, digits) := unsigned rest
      if digits.isEmpty || !digits.all isAsciiDigit then none
      else some (if negative then -(digitsValue digits : Int) else digitsValue digits)
    else none

/-- Reads an unsigned literal. -/
def literal? (text : List Char) : Option Literal :=
  let whole := text.takeWhile isAsciiDigit
  let afterWhole := text.dropWhile isAsciiDigit
  let (fraction, tail) := match afterWhole with
    | '.' :: rest => (rest.takeWhile isAsciiDigit, rest.dropWhile isAsciiDigit)
    | rest => ([], rest)
  if whole.isEmpty && fraction.isEmpty then none
  else (exponent? tail).map fun e => ⟨whole, fraction, e⟩

/-- The number nearest to a literal's value. -/
def Literal.toBits (negative : Bool) (l : Literal) : UInt64 :=
  Binary64.ofDecimal negative (digitsValue (l.whole ++ l.fraction)) (l.exponent - l.fraction.length)

/-- Reads a number. -/
def read? (text : List Char) : Option Float :=
  let (negative, rest) := unsigned text
  let word := String.ofList (rest.map Char.toLower)
  if word = "inf" ∨ word = "infinity" then some (Float.ofBits (Binary64.infinity negative))
  else if word = "nan" then some (Float.ofBits 0x7FF8000000000000)
  else (literal? rest).map fun l => Float.ofBits (l.toBits negative)

end TrackerGateway.Decimal
