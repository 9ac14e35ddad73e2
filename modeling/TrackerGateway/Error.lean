import TrackerGateway.Identity
import TrackerGateway.SocketAddress

/-!
# Everything that can go wrong, by cause

`Error.message` gives each cause its words. `closesConnection` tells the causes after which a
connection cannot go on from those that cost one unit only.
-/

namespace TrackerGateway

/-- What can be wrong between a unit or a command and its protocol. -/
inductive ProtocolFault where
  /-- Fewer octets were there than a field needs. -/
  | truncated (needed available : Nat)
  /-- A length in a frame contradicts the octets that are there. -/
  | framingDesync (declared available : Nat)
  /-- A command that a protocol has no words for. -/
  | unsupportedCommand (protocol command : String)
  | missingParameter (key : String)
  | invalidParameter (key reason : String)
  /-- A decoder got units of a variant it was not set up for. -/
  | misconfigured (reason : String)
  deriving DecidableEq, Repr

/-- The words of a fault. -/
def ProtocolFault.message : ProtocolFault → String
  | .truncated needed available => s!"truncated input: needed {needed} bytes, {available} available"
  | .framingDesync declared available =>
    s!"framing desynchronized: declared {declared} bytes, {available} available"
  | .unsupportedCommand protocol command =>
    s!"command {command} is not supported by protocol {protocol}"
  | .missingParameter key => s!"missing command parameter: {key}"
  | .invalidParameter key reason => s!"invalid command parameter {key}: {reason}"
  | .misconfigured reason => s!"decoder misconfigured: {reason}"

/-- A cause of failure. -/
inductive Error where
  /-- A listener got no address. -/
  | bindFailed (address : SocketAddress) (reason : String)
  /-- A frame outgrew its limit. -/
  | frameTooLarge (size limit : Nat)
  | connectionClosed
  /-- A command for a device that is on no connection. -/
  | deviceNotConnected (device : DeviceId)
  | protocol (fault : ProtocolFault)
  | unknownProtocol (name : String)
  | directory (reason : String)
  | media (reason : String)
  | config (reason : String)
  | invalidConfig (reason : String)
  | io (reason : String)
  | internal (reason : String)
  deriving DecidableEq, Repr

namespace Error

/-- The words of a cause. -/
def message : Error → String
  | .bindFailed address reason => s!"transport error: bind failed on {address.toText}: {reason}"
  | .frameTooLarge size limit => s!"transport error: frame too large: {size} bytes (max {limit})"
  | .connectionClosed => "connection closed"
  | .deviceNotConnected device => s!"device {device.toText} has no open connection"
  | .protocol fault => s!"protocol error: {fault.message}"
  | .unknownProtocol name => s!"unknown protocol: {name}"
  | .directory reason => s!"device directory error: {reason}"
  | .media reason => s!"media storage error: {reason}"
  | .config reason => s!"configuration error: {reason}"
  | .invalidConfig reason => s!"invalid configuration: {reason}"
  | .io reason => s!"IO error: {reason}"
  | .internal reason => s!"internal error: {reason}"

/-- Whether the connection that met this cause has to be closed. -/
def closesConnection : Error → Bool
  | .connectionClosed | .io _ | .protocol (.framingDesync ..) | .frameTooLarge .. => true
  | _ => false

/-- Whether a decoder was set up for another variant of its protocol. -/
def isMisconfiguration : Error → Bool
  | .protocol (.misconfigured _) => true
  | _ => false

/-- Whether a protocol has no words for a command. -/
def isUnsupportedCommand : Error → Bool
  | .protocol (.unsupportedCommand ..) => true
  | _ => false

/-- Whether a decoder passes the cause on instead of dropping what it was reading. -/
def isFatal (e : Error) : Bool := e.isMisconfiguration || e.closesConnection

end Error

/-- Where an error happened. -/
structure ErrorContext where
  connection : ConnectionId
  protocol : String
  peer : Option SocketAddress
  identifier : Option String

/-- The words of an error's place. -/
def ErrorContext.message (c : ErrorContext) : String :=
  s!"protocol={c.protocol}, connection={c.connection.toText}" ++
    (match c.peer with | some peer => s!", peer={peer.toText}" | none => "") ++
    (match c.identifier with | some identifier => s!", identifier={identifier}" | none => "")

end TrackerGateway
