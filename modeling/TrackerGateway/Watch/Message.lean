import TrackerGateway.Text.Trim
import TrackerGateway.Text.Utf8
import TrackerGateway.Watch.Framing

/-!
# What a watch says in the content of a frame

The text up to the first comma tells what kind of message it is; the rest is its body.
`Message.reply?` is the content of the answer that the watch waits for.
-/

namespace TrackerGateway.Watch

/-- Kinds of messages. -/
inductive MessageKind where
  /-- The watch signs on. -/
  | hello
  /-- The watch is there; it may tell steps and battery. -/
  | keepAlive
  /-- A location report. -/
  | report
  /-- A location report that has to be confirmed. -/
  | alarm
  /-- A question whether the server hears, which is answered with itself. -/
  | check
  | heartRate
  | bloodPressure
  | image
  | voice
  | other
  deriving DecidableEq, Repr

/-- The kind of a message of a type. -/
def MessageKind.ofType (type : String) : MessageKind :=
  match type with
  | "INIT" => .hello
  | "LK" => .keepAlive
  | "UD" | "UD2" | "UD3" | "WT" => .report
  | "AL" => .alarm
  | "TKQ" | "TKQ2" => .check
  | "PULSE" | "heart" => .heartRate
  | "bphrt" => .bloodPressure
  | "img" => .image
  | "TK" => .voice
  | _ => .other

/-- The octet between the type and the body, and between the values of a body. -/
def comma : UInt8 := 0x2C

/-- A message. -/
structure Message where
  type : String
  body : Bytes
  deriving DecidableEq, Repr

namespace Message

/-- The content of a frame, without its header and the bracket that closes it. -/
def contentOf (header : Header) (frame : Bytes) : Bytes :=
  let content := frame.drop header.contentStart
  if content.getLast? = some closing then content.dropLast else content

/-- The message in a content. -/
def ofContent (content : Bytes) : Message :=
  match Bytes.cut? comma content with
  | some (type, body) => ⟨Utf8.decodeLossy type, body⟩
  | none => ⟨Utf8.decodeLossy content, []⟩

/-- The message in a frame. -/
def ofFrame (header : Header) (frame : Bytes) : Message := ofContent (contentOf header frame)

/-- The kind of the message. -/
def kind (m : Message) : MessageKind := .ofType m.type

/-- The body as text. -/
def text (m : Message) : String := Utf8.decodeLossy m.body

/-- The values of the body. -/
def values (m : Message) : List String := (Text.splitAt ',' m.text).map Text.trim

/-- The content of the answer. -/
def reply? (m : Message) : Option String :=
  match m.kind with
  | .hello => some "INIT,1"
  | .keepAlive | .alarm | .check => some m.type
  | .report | .heartRate | .bloodPressure | .image | .voice | .other => none

/-- The octets between the comma after the number of an image and the first of the image: twelve
digits of its time and a comma. -/
def imageTimeLength : Nat := 13

/-- The data of an image, after its number and its time. -/
def imageData? (m : Message) : Option Bytes :=
  match Bytes.cut? comma m.body with
  | some (_, rest) => if imageTimeLength ≤ rest.length then some (rest.drop imageTimeLength)
    else none
  | none => none

end Message
end TrackerGateway.Watch
