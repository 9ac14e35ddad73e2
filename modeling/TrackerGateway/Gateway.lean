import TrackerGateway.Protocol

/-!
# The gateway: open connections at work on one registry, one directory and one media store

A stream is cut into units; a datagram is one unit, and the first one of an address opens its
connection. `process` decodes a unit, sends the replies, and hands on the positions. A connection
keeps an encoder with what it has shown so far and the device it serves, so that commands find it.
-/

namespace TrackerGateway

/-- What the gateway counts. -/
structure GatewayStats where
  /-- Connections that were opened. -/
  opened : Nat
  /-- Connections that were closed. -/
  closed : Nat
  /-- Units that were decoded, with or without success. -/
  frames : Nat
  /-- Positions that were handed on. -/
  positions : Nat
  /-- Units that could not be decoded. -/
  errors : Nat
  deriving DecidableEq, Repr

/-- Where a peer is: the listener it came to, and its own address. -/
structure Endpoint where
  listener : Nat
  remote : SocketAddress
  deriving DecidableEq, Repr

/-- An open connection. -/
structure Connection where
  protocol : Protocol
  transport : Transport
  endpoint : Endpoint
  decoder : Decoder
  /-- What writes commands to the device. -/
  encoder : Encoder
  /-- The device that commands are written to. -/
  deviceId : Option DeviceId
  /-- Octets of a stream that make no unit yet. -/
  pending : Bytes
  deriving DecidableEq, Repr

/-- The state of a gateway. -/
structure Gateway (δ μ : Type) where
  options : Protocol → ProtocolOptions
  services : Services δ μ
  connections : Table ConnectionId Connection
  /-- The number of the next connection. -/
  nextConnection : Nat
  stats : GatewayStats
  /-- What was sent to peers, first to last. -/
  sent : List (Endpoint × Bytes)
  /-- The positions that were handed on, first to last. -/
  emitted : List Position

namespace Connection

/-- A connection that has just been opened. -/
def start (options : ProtocolOptions) (protocol : Protocol) (transport : Transport)
    (endpoint : Endpoint) : Connection :=
  { protocol, transport, endpoint, decoder := .start options protocol, encoder := .initial protocol,
    deviceId := none, pending := [] }

/-- The connection after a unit: its encoder is that of the decoder, and it serves the device of the
session, unless there is none. -/
def learn (c : Connection) (session : Option Session) : Connection :=
  { c with encoder := c.decoder.encoder,
           deviceId := (session.map (·.deviceId)).orElse fun _ => c.deviceId }

/-- The connection after a position: it serves the device of the position, unless there is none. -/
def serve (c : Connection) (position : Position) : Connection :=
  if position.deviceId.isSet then { c with deviceId := some position.deviceId } else c

end Connection

namespace Gateway

variable {δ μ : Type}

/-- A gateway without connections. -/
def start (options : Protocol → ProtocolOptions) (directory : δ) (media : μ) : Gateway δ μ :=
  { options
    services := { registry := .empty, directory, media, replies := [] }
    connections := []
    nextConnection := 0
    stats := ⟨0, 0, 0, 0, 0⟩
    sent := []
    emitted := [] }

/-- The connection of a number. -/
def connection? (g : Gateway δ μ) (id : ConnectionId) : Option Connection :=
  Table.get? g.connections id

/-- Keeps the new state of a connection. -/
def put (g : Gateway δ μ) (id : ConnectionId) (c : Connection) : Gateway δ μ :=
  { g with connections := Table.put g.connections id c }

/-- Opens a connection. -/
def accept (g : Gateway δ μ) (protocol : Protocol) (transport : Transport) (endpoint : Endpoint) :
    ConnectionId × Gateway δ μ :=
  let id : ConnectionId := ⟨g.nextConnection⟩
  (id, { g.put id (.start (g.options protocol) protocol transport endpoint) with
    nextConnection := g.nextConnection + 1
    stats := { g.stats with opened := g.stats.opened + 1 } })

/-- Closes a connection, and with it its session. -/
def close (g : Gateway δ μ) (id : ConnectionId) : Gateway δ μ :=
  if Table.holds g.connections id then
    { g with
      connections := Table.erase g.connections id
      services := { g.services with registry := (g.services.registry.release id).2 }
      stats := { g.stats with closed := g.stats.closed + 1 } }
  else g

/-- Hands on a position of a connection. -/
def emit (g : Gateway δ μ) (position : Position) : Gateway δ μ :=
  { g with
    services := { g.services with registry := g.services.registry.updateLast position }
    stats := { g.stats with positions := g.stats.positions + 1 }
    emitted := g.emitted ++ [position] }

/-- Sends the replies that a decoder queued. -/
def sendReplies (g : Gateway δ μ) (endpoint : Endpoint) : Gateway δ μ :=
  { g with
    sent := g.sent ++ g.services.replies.map (endpoint, ·)
    services := { g.services with replies := [] } }

/-- Counts a unit that could not be decoded. The connection stays unless it cannot go on. -/
def fail (g : Gateway δ μ) (id : ConnectionId) (error : Error) : Gateway δ μ :=
  let g := { g with stats := { g.stats with errors := g.stats.errors + 1 } }
  if error.closesConnection then g.close id else g

/-- Takes what a connection's unit told. -/
def deliver (g : Gateway δ μ) (id : ConnectionId) (c : Connection) (positions : List Position) :
    Gateway δ μ :=
  let c := positions.foldl Connection.serve (c.learn (g.services.registry.sessionOf? id))
  positions.foldl emit (g.put id c)

/-- Decodes a unit of a connection, which came at some time. -/
def process [Directory δ] [MediaStore μ] (g : Gateway δ μ) (id : ConnectionId)
    (receivedAt : Instant) (unit : Bytes) : Gateway δ μ :=
  match g.connection? id with
  | none => g
  | some c =>
    let (result, decoder, services) := c.decoder.decode g.services id receivedAt unit
    let c := { c with decoder }
    let g := { g.put id c with
      services
      stats := { g.stats with frames := g.stats.frames + 1 } }
    let g := g.sendReplies c.endpoint
    match result with
    | .error error => g.fail id error
    | .ok positions => g.deliver id c positions

/-- Takes octets of a stream. A stream that cannot be cut is closed. -/
def receive [Directory δ] [MediaStore μ] (g : Gateway δ μ) (id : ConnectionId)
    (receivedAt : Instant) (chunk : Bytes) : Gateway δ μ :=
  match g.connection? id with
  | none => g
  | some c =>
    let drained := c.protocol.framing.feed c.pending chunk
    let g := drained.units.foldl (fun g unit => g.process id receivedAt unit) g
    match g.connection? id with
    | none => g
    | some c =>
      if drained.failure.isSome then g.close id else g.put id { c with pending := drained.rest }

/-- The open connection of a datagram peer. -/
def peer? (g : Gateway δ μ) (endpoint : Endpoint) : Option ConnectionId :=
  (g.connections.find? fun entry =>
    entry.2.transport == .udp && entry.2.endpoint == endpoint).map (·.1)

/-- Takes a datagram; the first of its peer opens a connection. -/
def receiveDatagram [Directory δ] [MediaStore μ] (g : Gateway δ μ) (protocol : Protocol)
    (endpoint : Endpoint) (receivedAt : Instant) (datagram : Bytes) : Gateway δ μ :=
  let (id, g) := match g.peer? endpoint with
    | some id => (id, g)
    | none => g.accept protocol .udp endpoint
  g.process id receivedAt (protocol.datagramUnit datagram)

/-- Sends a command to its device. -/
def sendCommand (g : Gateway δ μ) (c : Command) : Except Error (Gateway δ μ) :=
  match g.connections.find? fun entry => entry.2.deviceId == some c.deviceId with
  | none => .error (.deviceNotConnected c.deviceId)
  | some (_, connection) =>
    match connection.encoder.encode c with
    | .error fault => .error (.protocol fault)
    | .ok payload => .ok { g with sent := g.sent ++ [(connection.endpoint, payload)] }

/-- Closes the connections of these numbers. -/
def closeAll (g : Gateway δ μ) (ids : List ConnectionId) : Gateway δ μ := ids.foldl close g

/-- Closes the connections of all datagram peers, none of which has been heard for long. -/
def dropIdle (g : Gateway δ μ) : Gateway δ μ :=
  g.closeAll ((g.connections.filter fun entry => entry.2.transport == .udp).map (·.1))

/-- Closes all connections. -/
def shutdown (g : Gateway δ μ) : Gateway δ μ := g.closeAll (g.connections.map (·.1))

/-- How many connections are open. -/
def connectionCount (g : Gateway δ μ) : Nat := g.connections.length

end Gateway
end TrackerGateway
