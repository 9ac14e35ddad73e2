import TrackerGateway.Bytes.Basic

/-!
# Byte strings as hexadecimal text, two lower case digits an octet

`decode` takes digits of either case; it refuses an odd number of them and any other character.
-/

namespace TrackerGateway.Hex

/-- The lower case digit of a number below sixteen. -/
def digit (n : Nat) : Char := Char.ofNat (if n < 10 then 48 + n else 87 + n)

/-- The value of a hexadecimal digit of either case. -/
def value? (c : Char) : Option Nat :=
  if '0' ≤ c ∧ c ≤ '9' then some (c.toNat - 48)
  else if 'a' ≤ c ∧ c ≤ 'f' then some (c.toNat - 87)
  else if 'A' ≤ c ∧ c ≤ 'F' then some (c.toNat - 55)
  else none

/-- Whether an octet is the character of a hexadecimal digit. -/
def isDigitByte (b : UInt8) : Bool := (value? (Char.ofNat b.toNat)).isSome

/-- The characters that write an octet. -/
def ofByte (b : UInt8) : List Char := [digit (b.toNat / 16), digit (b.toNat % 16)]

/-- Writes a byte string. -/
def encode (bytes : Bytes) : String := String.ofList (bytes.flatMap ofByte)

/-- Reads pairs of digits onto `seen`, which is in reverse order. -/
def decodeOnto (seen : Bytes) : List Char → Option Bytes
  | [] => some seen.reverse
  | high :: low :: rest =>
    match value? high, value? low with
    | some h, some l => decodeOnto (UInt8.ofNat (16 * h + l) :: seen) rest
    | _, _ => none
  | [_] => none

/-- Reads a byte string. -/
def decode (text : String) : Option Bytes := decodeOnto [] text.toList

/-- The digits of a number, at least `width` of them, most significant first. -/
def padded (width n : Nat) : List Char :=
  let digits := Nat.toDigits 16 n
  List.replicate (width - digits.length) '0' ++ digits

end TrackerGateway.Hex
