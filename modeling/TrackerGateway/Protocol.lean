import TrackerGateway.Egts.Decoder
import TrackerGateway.Egts.Encoder
import TrackerGateway.Watch.Decoder

/-!
# The protocols, each with its framing, its decoder and its encoder
-/

namespace TrackerGateway

/-- The protocols that devices speak. -/
inductive Protocol where
  | egts
  | watch
  deriving DecidableEq, Repr

/-- What can be set for a protocol. -/
structure ProtocolOptions where
  /-- Whether devices go by the identifier in each unit instead of by their connection. -/
  useIdentifierAsKey : Bool
  /-- What holds instead of the setting for the whole server. -/
  ignoreSessionCache : Option Bool
  deriving DecidableEq, Repr

namespace ProtocolOptions

/-- What holds where nothing is set. -/
def default : ProtocolOptions := ⟨false, none⟩

/-- Options in JSON. -/
def toJson (options : ProtocolOptions) : Json :=
  .object (("use_identifier_as_key", .bool options.useIdentifierAsKey) ::
    Json.ifSome "ignore_session_cache" .bool options.ignoreSessionCache)

/-- Reads options. -/
def ofJson? (j : Json) : Option ProtocolOptions := do
  let r ← Json.record? ["use_identifier_as_key", "ignore_session_cache"] j
  let useIdentifierAsKey ← r.defaulted "use_identifier_as_key" false Json.asBool?
  let ignoreSessionCache ← r.defaulted "ignore_session_cache" none (Json.asOption? Json.asBool?)
  some { useIdentifierAsKey, ignoreSessionCache }

/-- What sessions are kept under. -/
def mode (options : ProtocolOptions) : SessionMode :=
  if options.useIdentifierAsKey then .byIdentifier else .byConnection

end ProtocolOptions

namespace Protocol

/-- All protocols. -/
def all : List Protocol := [.egts, .watch]

/-- The name of a protocol. -/
def name : Protocol → String
  | .egts => Egts.protocolName
  | .watch => Watch.protocolName

/-- The protocol of a name, in whatever case its ASCII letters are. -/
def ofName (text : String) : Except Error Protocol :=
  match all.find? fun p => Text.toAsciiLower p.name == Text.toAsciiLower text with
  | some p => .ok p
  | none => .error (.unknownProtocol text)

/-- How streams are cut into units. -/
def framing : Protocol → Framing
  | .egts => Egts.Packet.framing
  | .watch => Watch.framing Watch.defaultLimit

/-- The unit in a datagram. -/
def datagramUnit : Protocol → Bytes → Bytes
  | .egts, datagram => datagram
  | .watch, datagram => Watch.unescape datagram

end Protocol

/-- What writes commands to a device. -/
inductive Encoder where
  | egts
  | watch (peer : Watch.Peer)
  deriving DecidableEq, Repr

namespace Encoder

/-- The protocol of an encoder. -/
def protocol : Encoder → Protocol
  | .egts => .egts
  | .watch _ => .watch

/-- Writes a command. -/
def encode : Encoder → Command → Except ProtocolFault Bytes
  | .egts, c => Egts.encode c
  | .watch peer, c => peer.encode c

/-- The encoder for a device that has not spoken. -/
def initial : Protocol → Encoder
  | .egts => .egts
  | .watch => .watch .unknown

end Encoder

/-- What a connection's decoder keeps between units. -/
inductive Decoder where
  | egts (state : Egts.Decoder)
  | watch (peer : Watch.Peer)
  deriving DecidableEq, Repr

namespace Decoder

variable {δ μ : Type}

/-- The protocol of a decoder. -/
def protocol : Decoder → Protocol
  | .egts _ => .egts
  | .watch _ => .watch

/-- The decoder of a new connection. -/
def start (options : ProtocolOptions) : Protocol → Decoder
  | .egts => .egts (.start options.mode)
  | .watch => .watch .unknown

/-- The encoder with what the connection has shown so far. -/
def encoder : Decoder → Encoder
  | .egts _ => .egts
  | .watch peer => .watch peer

/-- Decodes a unit of a connection, which came at some time. -/
def decode [Directory δ] [MediaStore μ] (decoder : Decoder) (services : Services δ μ)
    (connection : ConnectionId) (receivedAt : Instant) (unit : Bytes) :
    Except Error (List Position) × Decoder × Services δ μ :=
  match decoder with
  | .egts state =>
    let (result, state, services) := state.decode services connection unit
    (result, .egts state, services)
  | .watch peer =>
    let (result, peer, services) := peer.decode services connection receivedAt unit
    (result, .watch peer, services)

end Decoder
end TrackerGateway
