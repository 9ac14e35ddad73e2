import TrackerGateway.Decimal.Reading
import TrackerGateway.Json.Basic
import TrackerGateway.Text.Integer
import TrackerGateway.Time.Calendar

/-!
# Numbers, dates and times of TOML documents, as the words that they are written with
-/

namespace TrackerGateway.Toml.Number

/-- Digits with single underscores between them. -/
def isDigits (isDigit : Char → Bool) : List Char → Bool
  | [] => false
  | [c] => isDigit c
  | c :: '_' :: rest => isDigit c && isDigits isDigit rest
  | c :: rest => isDigit c && isDigits isDigit rest

/-- The digits without the underscores. -/
def plain (word : List Char) : List Char := word.filter (· != '_')

/-- A whole decimal number, with a sign or without; only zero begins with a zero. -/
def isWhole (word : List Char) : Bool :=
  let digits := match word with
    | '+' :: rest | '-' :: rest => rest
    | _ => word
  digits == ['0'] || (digits.head? != some '0' && isDigits Text.isAsciiDigit digits)

/-- A whole number in a radix other than ten. -/
def inRadix? (radix : Nat) (digits : List Char) : Option Int :=
  let isDigit (c : Char) : Bool := (Text.Integer.digit? radix c).isSome
  if isDigits isDigit digits then
    (Text.Integer.read (.signed 64) radix (plain digits)).toOption
  else none

/-- A whole number of 64 bits. -/
def integer? (word : List Char) : Option Int :=
  match word with
  | '0' :: 'x' :: digits => inRadix? 16 digits
  | '0' :: 'o' :: digits => inRadix? 8 digits
  | '0' :: 'b' :: digits => inRadix? 2 digits
  | _ => if isWhole word then (Text.Integer.read (.signed 64) 10 (plain word)).toOption else none

/-- An exponent after its letter. -/
def isExponent (word : List Char) : Bool :=
  isDigits Text.isAsciiDigit (match word with
    | '+' :: rest | '-' :: rest => rest
    | _ => word)

/-- Whether a character opens an exponent. -/
def isExponentMark (c : Char) : Bool := c == 'e' || c == 'E'

/-- A number with a fraction or an exponent or both. -/
def isFloat (word : List Char) : Bool :=
  let mantissa := word.takeWhile (! isExponentMark ·)
  let exponent := word.dropWhile (! isExponentMark ·)
  let whole := mantissa.takeWhile (· != '.')
  let fraction := mantissa.dropWhile (· != '.')
  isWhole whole && !(fraction.isEmpty && exponent.isEmpty) &&
    (fraction.isEmpty || isDigits Text.isAsciiDigit fraction.tail) &&
    (exponent.isEmpty || isExponent exponent.tail)

/-- The words for what is no number, or infinite. -/
def special? (word : List Char) : Option Float :=
  match String.ofList word with
  | "inf" | "+inf" => some (Float.ofBits (Binary64.infinity false))
  | "-inf" => some (Float.ofBits (Binary64.infinity true))
  | "nan" | "+nan" | "-nan" => some (Float.ofBits 0x7FF8000000000000)
  | _ => none

/-- A number with a fraction; one past the greatest is refused, one past the least is not. -/
def float? (word : List Char) : Option Float :=
  if isFloat word then
    (Decimal.read? (plain word)).filter fun x => x.toBits != Binary64.infinity false
  else special? word

/-! ### Dates and times -/

/-- The number of so many digits in front, and what follows. -/
def digits? (count : Nat) (word : List Char) : Option (Nat × List Char) :=
  let digits := word.take count
  if digits.length = count ∧ digits.all Text.isAsciiDigit then
    some (Decimal.digitsValue digits, word.drop count)
  else none

/-- What follows a character. -/
def after? (c : Char) : List Char → Option (List Char)
  | d :: rest => if d = c then some rest else none
  | [] => none

/-- What follows a date that exists. -/
def date? (word : List Char) : Option (List Char) := do
  let (year, rest) ← digits? 4 word
  let (month, rest) ← digits? 2 (← after? '-' rest)
  let (day, rest) ← digits? 2 (← after? '-' rest)
  if Date.isReal ⟨year, month, day⟩ then some rest else none

/-- What follows an hour and a minute. -/
def hourMinute? (word : List Char) : Option (List Char) := do
  let (hour, rest) ← digits? 2 word
  let (minute, rest) ← digits? 2 (← after? ':' rest)
  if hour < 24 ∧ minute < 60 then some rest else none

/-- What follows the fraction of a second, if there is one. -/
def fraction? : List Char → Option (List Char)
  | '.' :: rest => if (rest.takeWhile Text.isAsciiDigit).isEmpty then none
    else some (rest.dropWhile Text.isAsciiDigit)
  | rest => some rest

/-- What follows a time of day; a leap second may be there. -/
def time? (word : List Char) : Option (List Char) := do
  let rest ← hourMinute? word
  let (second, rest) ← digits? 2 (← after? ':' rest)
  if second ≤ 60 then fraction? rest else none

/-- Whether this is the offset of a time, or nothing. -/
def isOffset : List Char → Bool
  | [] | ['Z'] | ['z'] => true
  | '+' :: rest | '-' :: rest => hourMinute? rest == some []
  | _ => false

/-- Whether this is a time of day with or without an offset. -/
def isTime (word : List Char) : Bool := ((time? word).map isOffset).getD false

/-- Whether a word is a date, a time of day, or both. -/
def isMoment (word : List Char) : Bool :=
  match date? word with
  | some [] => true
  | some ('T' :: rest) | some ('t' :: rest) | some (' ' :: rest) => isTime rest
  | some _ => false
  | none => time? word == some []

/-- Whether a text goes on with the hour of a time. -/
def startsTime (cs : List Char) : Bool :=
  match cs with
  | a :: b :: ':' :: _ => Text.isAsciiDigit a && Text.isAsciiDigit b
  | _ => false

/-- What stands for a date or a time, for which nothing here has a use. -/
def moment (word : List Char) : Json := .object [("datetime", .text (String.ofList word))]

/-- The value that a word writes. -/
def value? (word : List Char) : Option Json :=
  if isMoment word then some (moment word)
  else ((integer? word).map Json.integer).orElse fun _ => (float? word).map Json.float

end TrackerGateway.Toml.Number
