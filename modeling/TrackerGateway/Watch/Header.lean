import TrackerGateway.Bytes.Hex
import TrackerGateway.Text.Utf8

/-!
# Headers of watch frames

A frame opens with a bracket and four fields that end in asterisks: a manufacturer of two octets,
the device's identifier, an index that may be missing, and the length of the content in four
hexadecimal digits. A frame has an index where four digits and an asterisk come after its third
field.

`Header.scan` reads the header at the front of what was received. Octets that may yet become a
header ask for more, unless there are so many that no header is left to hope for.
-/

namespace TrackerGateway

namespace Watch

/-- The octet that opens a frame. -/
def opening : UInt8 := 0x5B

/-- The octet that closes a frame. -/
def closing : UInt8 := 0x5D

/-- The octet that ends a field of a header. -/
def star : UInt8 := 0x2A

/-- The header of a frame. -/
structure Header where
  manufacturer : String
  deviceId : String
  index : Option String
  /-- How many octets of content the header declares. -/
  length : Nat
  /-- How many octets stand before the content. -/
  contentStart : Nat
  deriving DecidableEq, Repr

namespace Header

/-- What the octets at the front of a buffer are. -/
inductive Scan where
  /-- Perhaps the first part of a header. -/
  | incomplete
  /-- Not a header. -/
  | invalid
  | complete (header : Header)
  deriving DecidableEq, Repr

/-- From this many octets on, what is no header does not become one. -/
def patience : Nat := 64

/-- Whether octets are four hexadecimal digits. -/
def isLength (field : Bytes) : Bool := field.length == 4 && field.all Hex.isDigitByte

/-- The number that hexadecimal digits write. -/
def lengthOf (field : Bytes) : Nat :=
  field.foldl (fun n b => 16 * n + (Hex.value? (Char.ofNat b.toNat)).getD 0) 0

/-- The header of these fields, if the last is a length. -/
def ofFields (manufacturer deviceId : Bytes) (index : Option Bytes) (length : Bytes) : Scan :=
  if isLength length then
    .complete
      { manufacturer := Utf8.decodeLossy manufacturer
        deviceId := Utf8.decodeLossy deviceId
        index := index.map Utf8.decodeLossy
        length := lengthOf length
        contentStart :=
          4 + deviceId.length + 1 + (index.map (·.length + 1)).getD 0 + length.length + 1 }
  else .invalid

/-- Reads on after the third field, which is an index or a length. -/
def scanLength (manufacturer deviceId field after : Bytes) : Scan :=
  if Bytes.hasAtLeast 5 after then
    if after[4]? = some star && (after.take 4).all Hex.isDigitByte then
      ofFields manufacturer deviceId (some field) (after.take 4)
    else ofFields manufacturer deviceId none field
  else if after.contains closing then ofFields manufacturer deviceId none field
  else .incomplete

/-- Reads on after the manufacturer. -/
def scanFields (manufacturer octets : Bytes) : Scan :=
  match Bytes.cut? star octets with
  | none => .incomplete
  | some (deviceId, rest) =>
    if deviceId.isEmpty then .invalid
    else
      match Bytes.cut? star rest with
      | none => .incomplete
      | some (field, after) => scanLength manufacturer deviceId field after

/-- Reads the header at the front, however much there is. -/
def read : Bytes → Scan
  | [] => .incomplete
  | b :: rest =>
    if b ≠ opening then .invalid
    else
      match rest with
      | first :: second :: b :: rest =>
        if b ≠ star then .invalid else scanFields [first, second] rest
      | _ => .incomplete

/-- Reads the header at the front of a buffer. -/
def scan (buffer : Bytes) : Scan :=
  match read buffer with
  | .incomplete => if Bytes.hasAtLeast patience buffer then .invalid else .incomplete
  | found => found

/-- Whether a header stands at the front of a buffer. -/
def scan? (buffer : Bytes) : Option Header :=
  match scan buffer with
  | .complete header => some header
  | _ => none

end Header

/-- The text of a frame: its fields, the length of its content, and the content. -/
def frameText (manufacturer deviceId : String) (index : Option String) (content : String) :
    String :=
  let length := String.ofList (Hex.padded 4 content.utf8ByteSize)
  match index with
  | some index => s!"[{manufacturer}*{deviceId}*{index}*{length}*{content}]"
  | none => s!"[{manufacturer}*{deviceId}*{length}*{content}]"

end Watch
end TrackerGateway
