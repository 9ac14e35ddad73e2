import TrackerGateway.Bytes.Basic

/-!
# Text in the UTF-8 encoding

Decoding is a machine that reads one octet at a time. `begin` takes an octet that starts a
character, `Pending` holds what a started character still expects, and an octet that does not
continue it closes the malformed part and starts afresh. So each maximal malformed part yields one
`none` among the decoded characters: `decodeLossy` writes U+FFFD there, `decode?` refuses the text.
-/

namespace TrackerGateway.Utf8

/-- The octets of a text. -/
def encode (text : String) : Bytes := text.toList.flatMap String.utf8EncodeChar

/-- A character that has started and lacks some octets. -/
structure Pending where
  /-- How many octets are missing, at least one. -/
  missing : Nat
  /-- The least value the next octet may have. -/
  least : UInt8
  /-- The greatest value the next octet may have. -/
  greatest : UInt8
  /-- The code point's bits so far. -/
  value : Nat
  deriving DecidableEq, Repr

/-- What was found so far, last first, and the character that has started. -/
abbrev State := List (Option Char) × Option Pending

/-- Takes an octet where a character starts. -/
def begin (found : List (Option Char)) (b : UInt8) : State :=
  let lead (missing : Nat) (least greatest : UInt8) (base : Nat) : State :=
    (found, some ⟨missing, least, greatest, b.toNat - base⟩)
  if b < 0x80 then (some (Char.ofNat b.toNat) :: found, none)
  else if b < 0xC2 then (none :: found, none)
  else if b < 0xE0 then lead 1 0x80 0xBF 0xC0
  else if b = 0xE0 then lead 2 0xA0 0xBF 0xE0
  else if b = 0xED then lead 2 0x80 0x9F 0xE0
  else if b < 0xF0 then lead 2 0x80 0xBF 0xE0
  else if b = 0xF0 then lead 3 0x90 0xBF 0xF0
  else if b < 0xF4 then lead 3 0x80 0xBF 0xF0
  else if b = 0xF4 then lead 3 0x80 0x8F 0xF0
  else (none :: found, none)

/-- Takes one more octet. -/
def step (state : State) (b : UInt8) : State :=
  match state with
  | (found, none) => begin found b
  | (found, some p) =>
    if p.least ≤ b ∧ b ≤ p.greatest then
      let value := 64 * p.value + (b.toNat - 0x80)
      if p.missing ≤ 1 then (some (Char.ofNat value) :: found, none)
      else (found, some ⟨p.missing - 1, 0x80, 0xBF, value⟩)
    else begin (none :: found) b

/-- The characters found when no octet is left, in order. -/
def finish : State → List (Option Char)
  | (found, none) => found.reverse
  | (found, some _) => (none :: found).reverse

/-- The characters of a byte string, `none` for each maximal malformed part. -/
def characters (bytes : Bytes) : List (Option Char) := finish (bytes.foldl step ([], none))

/-- Stands for a malformed part. -/
def replacement : Char := Char.ofNat 0xFFFD

/-- The text of a byte string, with U+FFFD for each malformed part. -/
def decodeLossy (bytes : Bytes) : String :=
  String.ofList ((characters bytes).map (·.getD replacement))

/-- The text of a well formed byte string. -/
def decode? (bytes : Bytes) : Option String := ((characters bytes).mapM id).map String.ofList

/-- An ASCII octet between characters is the character of that code. -/
theorem step_ascii {found : List (Option Char)} {b : UInt8} (h : b < 0x80) :
    step (found, none) b = (some (Char.ofNat b.toNat) :: found, none) := by
  simp [step, begin, h]

end TrackerGateway.Utf8
