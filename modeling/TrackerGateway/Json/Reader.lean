import TrackerGateway.Json.Basic
import TrackerGateway.Decimal.Reading
import TrackerGateway.Bytes.Hex

/-!
# Reading JSON text

`Json.parse?` accepts exactly one value with blanks around it. A number without fraction and
exponent that fits in 64 bits, signed or not, is an integer; every other number is read with one
scaling by a power of ten.
-/

namespace TrackerGateway.Json

/-- The text less the JSON blanks in front. -/
def skipBlanks (cs : List Char) : List Char :=
  cs.dropWhile fun c => c == ' ' || c == '\n' || c == '\r' || c == '\t'

/-- Four hexadecimal digits. -/
def hex4? : List Char → Option (Nat × List Char)
  | a :: b :: c :: d :: rest => do
    let a ← Hex.value? a
    let b ← Hex.value? b
    let c ← Hex.value? c
    let d ← Hex.value? d
    some (((a * 16 + b) * 16 + c) * 16 + d, rest)
  | _ => none

/-- A code point in the escaped form; two halves of a pair make one. -/
def escaped? (cs : List Char) : Option (Char × List Char) := do
  let (high, rest) ← hex4? cs
  if 0xD800 ≤ high && high < 0xDC00 then
    match rest with
    | '\\' :: 'u' :: rest =>
      let (low, rest) ← hex4? rest
      if 0xDC00 ≤ low && low < 0xE000 then
        some (Char.ofNat (0x10000 + (high - 0xD800) * 0x400 + (low - 0xDC00)), rest)
      else none
    | _ => none
  else if 0xDC00 ≤ high && high < 0xE000 then none
  else some (Char.ofNat high, rest)

/-- The rest of a text after its opening quote; `seen` is what came before, last first. -/
def textOnto : Nat → List Char → List Char → Option (String × List Char)
  | 0, _, _ => none
  | _ + 1, _, [] => none
  | fuel + 1, seen, c :: rest =>
    if c = '"' then some (String.ofList seen.reverse, rest)
    else if c = '\\' then
      match rest with
      | '"' :: rest => textOnto fuel ('"' :: seen) rest
      | '\\' :: rest => textOnto fuel ('\\' :: seen) rest
      | '/' :: rest => textOnto fuel ('/' :: seen) rest
      | 'b' :: rest => textOnto fuel ('\x08' :: seen) rest
      | 'f' :: rest => textOnto fuel ('\x0c' :: seen) rest
      | 'n' :: rest => textOnto fuel ('\n' :: seen) rest
      | 'r' :: rest => textOnto fuel ('\r' :: seen) rest
      | 't' :: rest => textOnto fuel ('\t' :: seen) rest
      | 'u' :: rest =>
        match escaped? rest with
        | some (d, rest) => textOnto fuel (d :: seen) rest
        | none => none
      | _ => none
    else if c.toNat < 32 then none
    else textOnto fuel (c :: seen) rest

/-- The digits of a number that fit in 64 bits, and how many were dropped after them. -/
def significand (seen dropped : Nat) : List Char → Nat × Nat
  | [] => (seen, dropped)
  | c :: rest =>
    let next := 10 * seen + (c.toNat - 48)
    if dropped = 0 ∧ next < Nat.pow 2 64 then significand next 0 rest
    else significand seen (dropped + 1) rest

/-- The number nearest to a power of ten. -/
def powerOfTen (n : Nat) : Float := Float.ofBits (Binary64.ofDecimal false 1 n)

/-- A significand scaled by a power of ten, with one multiplication or division where that is
possible; `none` where the result is too large. -/
def scaled? (digits : Nat) (exponent : Int) : Option Float :=
  let f := Float.ofBits (Binary64.nearest false digits 1)
  if digits = 0 then some f
  else if 0 ≤ exponent then
    if 308 < exponent then none
    else
      let x := f * powerOfTen exponent.toNat
      if x.isInf then none else some x
  else if -308 ≤ exponent then some (f / powerOfTen (-exponent).toNat)
  else if -616 ≤ exponent then some (f / powerOfTen 308 / powerOfTen (-exponent - 308).toNat)
  else some 0.0

/-- Reads an unsigned number whose form has been checked. -/
def numberOf? (negative : Bool) (l : Decimal.Literal) (isWhole : Bool) : Option Json :=
  let (digits, dropped) := significand 0 0 l.whole
  if isWhole && dropped == 0 && (if negative then digits ≤ Nat.pow 2 63 && digits != 0
    else true) then
    some (.integer (if negative then -(digits : Int) else digits))
  else
    let (digits, lost) := if dropped = 0 then significand digits 0 l.fraction
      else (digits, l.fraction.length)
    let exponent := l.exponent + dropped - (l.fraction.length - lost : Nat)
    (scaled? digits exponent).map fun x => .float (if negative then -x else x)

/-- A number, with its sign in front. -/
def number? (cs : List Char) : Option (Json × List Char) :=
  let (negative, rest) := match cs with
    | '-' :: rest => (true, rest)
    | rest => (false, rest)
  let isPart (c : Char) :=
    Text.isAsciiDigit c || c == '.' || c == 'e' || c == 'E' || c == '+' || c == '-'
  let token := rest.takeWhile isPart
  let rest := rest.dropWhile isPart
  let whole := token.takeWhile Text.isAsciiDigit
  let hasPoint := token.contains '.'
  let wellFormed := match whole with
    | [] => false
    | '0' :: _ :: _ => false
    | _ => true
  match Decimal.literal? token with
  | some l =>
    if wellFormed && (!hasPoint || !l.fraction.isEmpty) then
      (numberOf? negative l (token.length == whole.length)).map fun v => (v, rest)
    else none
  | none => none

mutual
/-- One value, after blanks. -/
def value? : Nat → List Char → Option (Json × List Char)
  | 0, _ => none
  | fuel + 1, cs =>
    match skipBlanks cs with
    | 'n' :: 'u' :: 'l' :: 'l' :: rest => some (.null, rest)
    | 't' :: 'r' :: 'u' :: 'e' :: rest => some (.bool true, rest)
    | 'f' :: 'a' :: 'l' :: 's' :: 'e' :: rest => some (.bool false, rest)
    | '"' :: rest => (textOnto (rest.length + 1) [] rest).map fun (s, rest) => (.text s, rest)
    | '[' :: rest =>
      match skipBlanks rest with
      | ']' :: rest => some (.list [], rest)
      | rest => elements? fuel [] rest
    | '\x7b' :: rest =>
      match skipBlanks rest with
      | '\x7d' :: rest => some (.object [], rest)
      | rest => members? fuel [] rest
    | cs => number? cs

/-- The rest of a list after its opening bracket and the elements `seen`, last first. -/
def elements? : Nat → List Json → List Char → Option (Json × List Char)
  | 0, _, _ => none
  | fuel + 1, seen, cs =>
    match value? fuel cs with
    | none => none
    | some (v, rest) =>
      match skipBlanks rest with
      | ',' :: rest => elements? fuel (v :: seen) rest
      | ']' :: rest => some (.list (v :: seen).reverse, rest)
      | _ => none

/-- The rest of an object after its opening bracket and the members `seen`, last first. -/
def members? : Nat → List (String × Json) → List Char → Option (Json × List Char)
  | 0, _, _ => none
  | fuel + 1, seen, cs =>
    match skipBlanks cs with
    | '"' :: rest =>
      match textOnto (rest.length + 1) [] rest with
      | none => none
      | some (name, rest) =>
        match skipBlanks rest with
        | ':' :: rest =>
          match value? fuel rest with
          | none => none
          | some (v, rest) =>
            match skipBlanks rest with
            | ',' :: rest => members? fuel ((name, v) :: seen) rest
            | '\x7d' :: rest => some (.object ((name, v) :: seen).reverse, rest)
            | _ => none
        | _ => none
    | _ => none
end

/-- Reads one value. -/
def parse? (text : String) : Option Json :=
  let cs := text.toList
  match value? (cs.length + 1) cs with
  | some (v, rest) => if (skipBlanks rest).isEmpty then some v else none
  | none => none

end TrackerGateway.Json
