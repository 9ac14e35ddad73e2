import TrackerGateway.Bytes.Hex
import TrackerGateway.Text.Trim

/-!
# Who sends: devices by the number the directory gave them, connections by a number of 128 bits
-/

namespace TrackerGateway

/-- The directory's number of a device. Zero stands for no device. -/
structure DeviceId where
  value : UInt64
  deriving DecidableEq, Repr

namespace DeviceId

/-- No device. -/
def unset : DeviceId := ⟨0⟩

/-- Whether a device is meant. -/
def isSet (id : DeviceId) : Bool := id.value != 0

/-- The number in decimal. -/
def toText (id : DeviceId) : String := toString id.value.toNat

end DeviceId

/-- One transport connection: a stream, or the datagrams of one peer. -/
structure ConnectionId where
  value : Nat
  deriving DecidableEq, Repr

/-- The first eight of a connection's thirty-two hexadecimal digits. -/
def ConnectionId.toText (id : ConnectionId) : String :=
  String.ofList ((Hex.padded 32 id.value).take 8)

/-- How device traffic arrives. -/
inductive Transport where
  | tcp
  | udp
  deriving DecidableEq, Repr

namespace Transport

/-- The name of a transport. -/
def name : Transport → String
  | .tcp => "tcp"
  | .udp => "udp"

/-- The transport of a name in lower case. -/
def ofName? : String → Option Transport
  | "tcp" => some .tcp
  | "udp" => some .udp
  | _ => none

/-- The transport of a name, in whatever case its ASCII letters are. -/
def ofText (text : String) : Except String Transport :=
  let lower := Text.toAsciiLower text
  match ofName? lower with
  | some transport => .ok transport
  | none => .error s!"unknown transport: {lower}"

end Transport
end TrackerGateway
