import TrackerGateway.Position
import TrackerGateway.Error
import TrackerGateway.Text.Trim

/-!
# Commands to devices: a kind and parameters

`Command.text`, `integer` and `flag` read a parameter in the form that a protocol asks for.
-/

namespace TrackerGateway

/-- What a device is asked to do. -/
inductive CommandKind where
  | custom
  | positionSingle
  | positionPeriodic
  | rebootDevice
  | powerOff
  | findDevice
  | alarmSos
  | setTimezone
  | setConnection
  | alarmSpeed
  deriving DecidableEq, Repr

namespace CommandKind

/-- The name of a kind. -/
def name : CommandKind → String
  | .custom => "custom"
  | .positionSingle => "positionSingle"
  | .positionPeriodic => "positionPeriodic"
  | .rebootDevice => "rebootDevice"
  | .powerOff => "powerOff"
  | .findDevice => "findDevice"
  | .alarmSos => "alarmSos"
  | .setTimezone => "setTimezone"
  | .setConnection => "setConnection"
  | .alarmSpeed => "alarmSpeed"

/-- All kinds. -/
def all : List CommandKind :=
  [.custom, .positionSingle, .positionPeriodic, .rebootDevice, .powerOff, .findDevice, .alarmSos,
    .setTimezone, .setConnection, .alarmSpeed]

/-- The kind of a name, in whatever case its ASCII letters are. -/
def ofName (text : String) : Except String CommandKind :=
  match all.find? fun k => Text.toAsciiLower k.name == Text.toAsciiLower text with
  | some k => .ok k
  | none => .error s!"unknown command type: {text}"

/-- The kind of a name in JSON, which may also be the only member of an object, with null. -/
def ofJson? : Json → Option CommandKind
  | .text s => all.find? fun k => k.name == s
  | .object [(s, .null)] => all.find? fun k => k.name == s
  | _ => none

end CommandKind

/-- A command with its parameters. -/
structure Command where
  deviceId : DeviceId
  kind : CommandKind
  attributes : Attributes

namespace Command

/-- A command in JSON. -/
def toJson (c : Command) : Json :=
  .object [("deviceId", .integer c.deviceId.value.toNat), ("type", .text c.kind.name),
    ("attributes", c.attributes.toJson)]

/-- Reads a command. -/
def ofJson? (j : Json) : Option Command := do
  let r ← Json.record? ["deviceId", "type", "attributes"] j
  let deviceId ← r.required "deviceId" Position.deviceId?
  let kind ← r.required "type" CommandKind.ofJson?
  let attributes ← r.defaulted "attributes" [] Attributes.ofJson?
  some { deviceId, kind, attributes }

/-- A parameter of the command. -/
def parameter? (c : Command) (key : String) : Option Attribute := Table.get? c.attributes key

/-- A required parameter as text. -/
def text (c : Command) (key : String) : Except ProtocolFault String :=
  match c.parameter? key with
  | some value => .ok value.toText
  | none => .error (.missingParameter key)

/-- A required parameter as an integer; a text may hold its digits. -/
def integer (c : Command) (key : String) : Except ProtocolFault Int :=
  match c.parameter? key with
  | some (.integer value) => .ok value
  | some (.text s) =>
    (Text.Integer.read (.signed 64) 10 (Text.trim s).toList).mapError fun fault =>
      .invalidParameter key fault.message
  | some other => .error (.invalidParameter key s!"expected integer, got {other.toText}")
  | none => .error (.missingParameter key)

/-- A parameter as a truth value, where it has one. -/
def flag? (c : Command) (key : String) : Option Bool :=
  match c.parameter? key with
  | some (.bool value) => some value
  | some (.integer value) => some (value != 0)
  | some (.text "true") | some (.text "1") => some true
  | some (.text "false") | some (.text "0") => some false
  | _ => none

end Command
end TrackerGateway
