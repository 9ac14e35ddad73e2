import TrackerGateway.Command
import TrackerGateway.Watch.Header
import TrackerGateway.Watch.Report

/-!
# What a connection has shown of its watch, and the commands written with it

A watch is addressed with the manufacturer and the identifier of its own frames, and with an index
if it has used one. Before a watch has spoken a command has to bring the identifier as a
parameter.
-/

namespace TrackerGateway.Watch

/-- The watch at the other end. -/
structure Peer where
  manufacturer : String
  hasIndex : Bool
  deviceId : Option String
  deriving DecidableEq, Repr

namespace Peer

/-- A watch that has not spoken yet. -/
def unknown : Peer := ⟨"3G", false, none⟩

/-- The watch after one more frame. -/
def heard (peer : Peer) (header : Header) : Peer :=
  { peer with
    manufacturer := header.manufacturer
    hasIndex := peer.hasIndex || header.index.isSome }

/-- The watch once its device is known. -/
def identified (peer : Peer) (header : Header) : Peer :=
  { peer with deviceId := some header.deviceId }

/-- The index in commands. -/
def commandIndex : String := "0001"

/-- The content of a command. -/
def content (c : Command) : Except ProtocolFault String :=
  match c.kind with
  | .custom => c.text "data"
  | .positionSingle => .ok "CR"
  | .positionPeriodic => do
    let frequency ← c.integer "frequency"
    pure s!"UPLOAD,{frequency}"
  | .rebootDevice => .ok "RESET"
  | .powerOff => .ok "POWEROFF"
  | .findDevice => .ok "FIND"
  | .alarmSos =>
    match c.flag? "enable" with
    | some enable => .ok (if enable then "SOSSMS,1" else "SOSSMS,0")
    | none => .error (.missingParameter "enable")
  | .setTimezone => do
    let language := ((c.parameter? "language").map Attribute.toText).getD "0"
    let timezone ← c.text "timezone"
    pure s!"LZ,{language},{timezone}"
  | .setConnection => do
    let server ← c.text "server"
    let port ← c.integer "port"
    pure s!"IP,{server},{port}"
  | .alarmSpeed => .error (.unsupportedCommand protocolName c.kind.name)

/-- The identifier that a command goes to. -/
def addressee (peer : Peer) (c : Command) : Except ProtocolFault String :=
  match peer.deviceId with
  | some id => .ok id
  | none => c.text "uniqueId"

/-- Writes a command. -/
def encode (peer : Peer) (c : Command) : Except ProtocolFault Bytes := do
  let content ← content c
  let deviceId ← peer.addressee c
  let index := if peer.hasIndex then some commandIndex else none
  pure (Utf8.encode (frameText peer.manufacturer deviceId index content))

end Peer
end TrackerGateway.Watch
