import TrackerGateway.Egts.Telemetry
import TrackerGateway.Session.Services

/-!
# Decoding EGTS units

Every record is acknowledged, then its sub-records are taken in order: a terminal's identity is
resolved and answered, all else goes into the record's position. A telemetry record whose position
has a fix and whose device is known yields that position. What is malformed costs its own record or,
where a record is cut short, the rest of its packet; only a fatal error ends the unit.
-/

namespace TrackerGateway.Egts

/-- The state of a connection's decoder. -/
structure Decoder where
  /-- What sessions are kept under. -/
  mode : SessionMode
  /-- The id of the next packet it sends. -/
  packetId : Nat
  deriving DecidableEq, Repr

namespace Decoder

/-- A decoder before its first unit. -/
def start (mode : SessionMode) : Decoder := ⟨mode, 0⟩

/-- Decoder and services at work on a unit, and the positions found so far. -/
structure Run (δ μ : Type) where
  decoder : Decoder
  services : Services δ μ
  positions : List Position

/-- Frame data with one record of one sub-record, which may refer to a packet. -/
def replyFrame (responseTo : Option Nat) (service kind : Nat) (content : Bytes) : Bytes :=
  (match responseTo with
    | some packetId => Bytes.ofLe 2 packetId ++ [0]
    | none => []) ++ Record.build 0 service (SubRecord.build kind content)

namespace Run

variable {δ μ : Type}

/-- Sends a packet under the next id. -/
def send (run : Run δ μ) (packetType : Nat) (frame : Bytes) : Run δ μ :=
  { run with
    decoder := { run.decoder with packetId := (run.decoder.packetId + 1) % 65536 }
    services := run.services.respond (Packet.build run.decoder.packetId packetType frame) }

/-- Acknowledges a record of a packet. -/
def acknowledge (run : Run δ μ) (packetId : Nat) (record : Record) : Run δ μ :=
  run.send Packet.typeResponse
    (replyFrame (some packetId) record.service SubRecord.recordResponse
      (Bytes.ofLe 2 record.number ++ [0]))

/-- Answers a terminal's identity. -/
def confirmIdentity (run : Run δ μ) (service : Nat) : Run δ μ :=
  run.send Packet.typeAppData (replyFrame none service SubRecord.resultCode [0])

/-- Looks for a session. -/
def resolve [Directory δ] (run : Run δ μ) (connection : ConnectionId) (identifier : String) :
    Except Error (Option Session) × Run δ μ :=
  let (result, services) := run.services.resolve run.decoder.mode connection (some identifier)
  (result, { run with services })

/-- Resolves identifiers one after the other until the directory fails. -/
def resolveAll [Directory δ] (run : Run δ μ) (connection : ConnectionId) :
    List String → Option Error × Run δ μ
  | [] => (none, run)
  | identifier :: rest =>
    match run.resolve connection identifier with
    | (.ok _, run) => run.resolveAll connection rest
    | (.error error, run) => (some error, run)

/-- Takes a terminal's identity. -/
def identify [Directory δ] (run : Run δ μ) (connection : ConnectionId) (service : Nat)
    (data : Bytes) : Option Error × Run δ μ :=
  if run.decoder.mode = .byIdentifier then
    (some (.protocol (.misconfigured
      "terminal identity received while resolving devices by object id")), run)
  else
    match Terminal.identifiers data with
    | .error fault => (some (.protocol fault), run)
    | .ok identifiers =>
      match run.resolveAll connection identifiers with
      | (some error, run) => (some error, run)
      | (none, run) => (none, run.confirmIdentity service)

/-- Takes sub-records in order; `fault` is why there are no more. -/
def takeSubRecords [Directory δ] (run : Run δ μ) (connection : ConnectionId) (service : Nat)
    (fault : Option ProtocolFault) : List SubRecord → Position → Except Error Position × Run δ μ
  | [], position =>
    match fault with
    | some fault => (.error (.protocol fault), run)
    | none => (.ok position, run)
  | sub :: rest, position =>
    if sub.kind = SubRecord.terminalIdentity then
      match run.identify connection service sub.data with
      | (some error, run) => (.error error, run)
      | (none, run) => run.takeSubRecords connection service fault rest position
    else
      match Telemetry.apply sub position with
      | .error fault => (.error (.protocol fault), run)
      | .ok position => run.takeSubRecords connection service fault rest position

/-- The session a telemetry record belongs to: that of the connection, or that of the object. -/
def sessionFor [Directory δ] (run : Run δ μ) (connection : ConnectionId) (objectId : Option Nat) :
    Except Error (Option Session) × Run δ μ :=
  match run.decoder.mode with
  | .byConnection => (.ok (run.services.registry.sessionOf? connection), run)
  | .byIdentifier =>
    match objectId.filter (· != 0) with
    | some id => run.resolve connection (toString id)
    | none => (.ok none, run)

/-- Adds the position of a session's device. -/
def emit (run : Run δ μ) (position : Position) (session : Session) : Run δ μ :=
  { run with positions := run.positions ++ [{ position with deviceId := session.deviceId }] }

/-- Adds the position of a telemetry record about an object, if it has a fix and its device is
known. -/
def reportPosition [Directory δ] (run : Run δ μ) (connection : ConnectionId) (objectId : Option Nat)
    (record : Record) (position : Position) : Option Error × Run δ μ :=
  if record.service = Record.teledataService && position.isFix then
    match run.sessionFor connection objectId with
    | (.error error, run) => (some error, run)
    | (.ok (some session), run) => (none, run.emit position session)
    | (.ok none, run) => (none, run)
  else (none, run)

/-- Takes one record about an object, and tells the error if the packet cannot go on. -/
def takeRecord [Directory δ] (run : Run δ μ) (connection : ConnectionId) (packetId : Nat)
    (objectId : Option Nat) (record : Record) : Option Error × Run δ μ :=
  let run := run.acknowledge packetId record
  let (subs, fault) := record.subRecords
  match run.takeSubRecords connection record.service fault subs (.blank protocolName) with
  | (.error error, run) => (if error.isFatal then some error else none, run)
  | (.ok position, run) => run.reportPosition connection objectId record position

/-- Takes the records of a packet. A record without an object is about that of the last with one. -/
def takeRecords [Directory δ] (run : Run δ μ) (connection : ConnectionId) (packetId : Nat)
    (objectId : Option Nat) : List Record → Option Error × Run δ μ
  | [] => (none, run)
  | record :: rest =>
    let objectId := record.objectId.orElse fun _ => objectId
    match run.takeRecord connection packetId objectId record with
    | (some error, run) => (some error, run)
    | (none, run) => run.takeRecords connection packetId objectId rest

/-- Takes one packet, and tells the error if it is fatal. Acknowledgments are not acknowledged. -/
def takePacket [Directory δ] (run : Run δ μ) (connection : ConnectionId) (packet : Packet) :
    Option Error × Run δ μ :=
  if packet.packetType = Packet.typeResponse then (none, run)
  else
    let (error, run) := run.takeRecords connection packet.id none packet.records.1
    (error.filter Error.isFatal, run)

/-- Takes packets until a fatal error. -/
def takePackets [Directory δ] (run : Run δ μ) (connection : ConnectionId) :
    List Packet → Option Error × Run δ μ
  | [] => (none, run)
  | packet :: rest =>
    match run.takePacket connection packet with
    | (some error, run) => (some error, run)
    | (none, run) => run.takePackets connection rest

end Run

variable {δ μ : Type}

/-- Decodes a unit of a connection. -/
def decode [Directory δ] (decoder : Decoder) (services : Services δ μ) (connection : ConnectionId)
    (bytes : Bytes) : Except Error (List Position) × Decoder × Services δ μ :=
  let (packets, fault) := Packet.readAll bytes
  let (error, run) := (Run.mk decoder services []).takePackets connection packets
  let result := match error.orElse fun _ => fault.map Error.protocol with
    | some error => .error error
    | none => .ok run.positions
  (result, run.decoder, run.services)

end Decoder
end TrackerGateway.Egts
