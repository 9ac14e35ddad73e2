import TrackerGateway.CommandLine.Invocation
import TrackerGateway.Config

/-!
# What the program answers

`run` gives the text that goes to standard output, or the error that ends the program. Files are not
its concern: the settings come read, and a file to be written is told by `fileToWrite?`.
-/

namespace TrackerGateway.CommandLine

/-- What the units of a capture came to. -/
structure Decoded where
  positions : List Position
  replies : List Bytes
  /-- How many octets at the end make no unit. -/
  trailing : Nat

namespace Decoded

/-- Decodes units one after the other. -/
def units {δ μ : Type} [Directory δ] [MediaStore μ] (receivedAt : Instant) (decoder : Decoder)
    (services : Services δ μ) : List Bytes → Except Error (List Position × List Bytes)
  | [] => .ok ([], services.replies)
  | unit :: rest => do
    let (found, decoder, services) := decoder.decode services ⟨0⟩ receivedAt unit
    let found ← found
    let (more, replies) ← units receivedAt decoder services rest
    pure (found ++ more, replies)

/-- Cuts octets into units and decodes them, with a directory that gives every device a number. -/
def ofBytes (c : Config) (p : Protocol) (byIdentifier : Bool) (receivedAt : Instant)
    (octets : Bytes) :
    Except Error Decoded := do
  let drained := p.framing.drain octets
  let options : ProtocolOptions := ⟨byIdentifier, some (byIdentifier || c.ignoreSessionCache)⟩
  let services : Services DeviceList MediaLibrary :=
    { registry := .empty
      directory := { c.directory with registersUnknown := true }
      media := .empty
      replies := [] }
  let (positions, replies) ← units receivedAt (.start options p) services drained.units
  match drained.failure with
  | some error => .error error
  | none => pure ⟨positions, replies, drained.rest.length⟩

/-- The line about what makes no unit. -/
def trailingLine (d : Decoded) : String :=
  if d.trailing = 0 then "" else s!"⚠ {d.trailing} trailing bytes not framed\n"

/-- What was found, in lines. -/
def toText (d : Decoded) : String :=
  s!"✓ {d.positions.length} position(s)\n" ++
    "".intercalate (d.positions.map fun p => p.toJson.compact ++ "\n") ++
    "".intercalate (d.replies.map fun reply => s!"← {Hex.encode reply}\n")

/-- What was found, in JSON. -/
def toJson (d : Decoded) : Json :=
  .object [("positions", .list (d.positions.map Position.toJson)),
    ("responses", .list (d.replies.map fun reply => .text (Hex.encode reply)))]

/-- What was found, in a format. -/
def write (d : Decoded) : OutputFormat → String
  | .text => d.trailingLine ++ d.toText
  | .json => d.trailingLine ++ d.toJson.sorted.pretty ++ "\n"

end Decoded

/-- The octets of a capture; blanks between hexadecimal digits do not count. -/
def Capture.octets : Capture → Except Error Bytes
  | .text written => .ok (Utf8.encode written)
  | .hex digits =>
    match Hex.decode ("".intercalate (Text.words digits)) with
    | some octets => .ok octets
    | none => .error (.config "Invalid hex input")

/-- A command as a line of hexadecimal digits, and as it stands if it can be read. -/
def writeCommand (octets : Bytes) : String :=
  let line := Hex.encode octets ++ "\n"
  match Utf8.decode? octets with
  | some text => if text.toList.any Text.isControl then line else line ++ text ++ "\n"
  | none => line

/-- Writes a command for a device that has not spoken. -/
def encodeCommand (p : Protocol) (kind : String) (parameters : List (String × Attribute)) :
    Except Error Bytes := do
  let kind ← (CommandKind.ofName kind).mapError Error.config
  let attributes := parameters.foldl (fun found entry => Table.put found entry.1 entry.2) []
  ((Encoder.initial p).encode ⟨.unset, kind, attributes⟩).mapError Error.protocol

/-- The file that an invocation writes, with its text. -/
def fileToWrite? (invocation : Invocation) : Option (String × String) :=
  match invocation.request with
  | .config (some path) => some (path, Config.sample.save)
  | _ => none

/-- What an invocation prints. Listening is not among what this program does by itself: it ends once
the settings are checked. -/
def run (c : Config) (receivedAt : Instant) (invocation : Invocation) : Except Error String :=
  match invocation.request with
  | .serve ignoreSessionCache => do
    let c := { c with ignoreSessionCache := c.ignoreSessionCache || ignoreSessionCache }
    c.validateForServe
    .error (.internal "no sockets to listen on")
  | .decode p capture byIdentifier => do
    let octets ← capture.octets
    let decoded ← Decoded.ofBytes c p byIdentifier receivedAt octets
    pure (decoded.write invocation.format)
  | .encode p kind parameters => do
    let octets ← encodeCommand p kind parameters
    pure (writeCommand octets)
  | .config none => do
    let text ← Config.sample.store
    pure (text ++ "\n")
  | .config (some path) => do
    let _ ← Config.sample.store
    pure s!"✓ Configuration written to {path}\n"

end TrackerGateway.CommandLine
