import TrackerGateway.Bytes.Hex

/-!
# Integers in text

`read` takes an optional sign and digits, and looks at the digits from left to right: it reports the
first character that is no digit or the first digit that leaves the range, whichever comes first. A
minus sign is read only where the range has negative numbers.
-/

namespace TrackerGateway.Text.Integer

/-- Why a text is no integer of a range. -/
inductive Fault where
  | empty
  | invalidDigit
  | tooLarge
  | tooSmall
  deriving DecidableEq, Repr

/-- The words of a fault. -/
def Fault.message : Fault → String
  | .empty => "cannot parse integer from empty string"
  | .invalidDigit => "invalid digit found in string"
  | .tooLarge => "number too large to fit in target type"
  | .tooSmall => "number too small to fit in target type"

/-- A closed range of integers. -/
structure Range where
  least : Int
  greatest : Int
  deriving DecidableEq, Repr

/-- The unsigned numbers of so many bits. -/
def Range.unsigned (bits : Nat) : Range := ⟨0, (Nat.pow 2 bits : Int) - 1⟩

/-- The two's complement numbers of so many bits. -/
def Range.signed (bits : Nat) : Range :=
  let half : Int := Nat.pow 2 (bits - 1)
  ⟨-half, half - 1⟩

/-- Whether a number lies in the range. -/
def Range.holds (range : Range) (n : Int) : Bool := range.least ≤ n && n ≤ range.greatest

/-- The value of a digit in a radix up to sixteen. -/
def digit? (radix : Nat) (c : Char) : Option Nat := (Hex.value? c).filter (· < radix)

/-- Reads digits after the number `seen`, none of them past `limit`. -/
def magnitude (radix limit : Nat) (overflow : Fault) : Nat → List Char → Except Fault Nat
  | seen, [] => .ok seen
  | seen, c :: rest =>
    match digit? radix c with
    | none => .error .invalidDigit
    | some d =>
      if radix * seen + d ≤ limit then magnitude radix limit overflow (radix * seen + d) rest
      else .error overflow

/-- Reads an integer of a range. -/
def read (range : Range) (radix : Nat) (text : List Char) : Except Fault Int :=
  match text with
  | [] => .error .empty
  | ['+'] | ['-'] => .error .invalidDigit
  | '+' :: digits => (magnitude radix range.greatest.toNat .tooLarge 0 digits).map fun n =>
    (n : Int)
  | '-' :: digits =>
    if range.least < 0 then
      (magnitude radix (-range.least).toNat .tooSmall 0 digits).map fun n => -(n : Int)
    else .error .invalidDigit
  | digits => (magnitude radix range.greatest.toNat .tooLarge 0 digits).map fun n => (n : Int)

/-- Reads a decimal integer of a range. -/
def decimal? (range : Range) (text : String) : Option Int := (read range 10 text.toList).toOption

end TrackerGateway.Text.Integer
