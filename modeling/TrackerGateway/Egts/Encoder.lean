import TrackerGateway.Egts.Record
import TrackerGateway.Command

/-!
# Commands to EGTS devices

The one command with a form of its own sets the server a device reports to. `ConnectionSettings`
holds its parameters within the ranges of the wire, and `encode` writes them as the only sub-record
of the only record of a packet; the index numbers both.
-/

namespace TrackerGateway.Egts

/-- Where a device shall report. -/
structure ConnectionSettings where
  server : Bytes
  port : Nat
  index : Nat
  deriving DecidableEq, Repr

namespace ConnectionSettings

/-- Seconds between attempts to connect. -/
def reconnectInterval : Nat := 300

/-- The settings as the data of a command: a lasting TCP connection to the server. -/
def toBytes (s : ConnectionSettings) : Bytes :=
  [3, 2, 1] ++ Bytes.ofLe 2 s.port ++ Bytes.ofLe 1 s.server.length ++ s.server ++ [0, 0] ++
    Bytes.ofLe 4 reconnectInterval

/-- A parameter that has to be an unsigned number of 16 bits. -/
def small (key : String) (reason : Int → String) (n : Int) : Except ProtocolFault Nat :=
  if 0 ≤ n ∧ n ≤ 65535 then .ok n.toNat else .error (.invalidParameter key (reason n))

/-- The settings a command asks for. -/
def ofCommand (c : Command) : Except ProtocolFault ConnectionSettings := do
  let server := Utf8.encode (← c.text "server")
  let port ← c.integer "port"
  let port ← small "port" (fun n => s!"{n} is not a TCP port") port
  if 255 < server.length then
    .error (.invalidParameter "server" s!"{server.length} bytes, at most 255 allowed")
  else
    match c.parameter? "index" with
    | none => .ok ⟨server, port, 0⟩
    | some _ =>
      let index ← c.integer "index"
      let index ← small "index" (fun n => s!"{n} out of range") index
      .ok ⟨server, port, index⟩

/-- The packet that carries the settings. -/
def toPacket (s : ConnectionSettings) : Bytes :=
  Packet.build s.index Packet.typeAppData
    (Record.build s.index Record.commandService (SubRecord.build SubRecord.commandData s.toBytes))

end ConnectionSettings

/-- Writes a command. -/
def encode (c : Command) : Except ProtocolFault Bytes :=
  match c.kind with
  | .setConnection => (ConnectionSettings.ofCommand c).map ConnectionSettings.toPacket
  | other => .error (.unsupportedCommand protocolName other.name)

end TrackerGateway.Egts
