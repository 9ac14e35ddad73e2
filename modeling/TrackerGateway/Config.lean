import TrackerGateway.Protocol
import TrackerGateway.Text.Quoted
import TrackerGateway.Time.Duration
import TrackerGateway.Toml.Printer
import TrackerGateway.Toml.Reader

/-!
# The settings of a gateway, and the files that hold them

`Config.load` reads the text of a file and checks it; `Config.store` writes one, if it can hold the
numbers. What a file leaves out has the value it has in `Config.default`.
-/

namespace TrackerGateway

/-- A protocol on a socket. -/
structure ListenerConfig where
  protocol : Protocol
  transport : Transport
  address : SocketAddress
  deriving DecidableEq, Repr

/-- A device of the built-in directory. -/
structure DeviceEntry where
  id : Nat
  uniqueId : String
  deriving DecidableEq, Repr

/-- All settings. -/
structure Config where
  listeners : List ListenerConfig
  /-- How long a datagram peer may be silent. -/
  idleTimeout : Duration
  ignoreSessionCache : Bool
  /-- How many positions may wait to be taken. -/
  positionBuffer : Nat
  /-- Options by the name of a protocol, in the order of the names. -/
  protocols : List (String × ProtocolOptions)
  registerUnknown : Bool
  devices : List DeviceEntry
  /-- The directory that media files go below. -/
  mediaRoot : String
  logLevel : String
  logFormat : String
  logColor : Bool
  deriving DecidableEq, Repr

namespace ListenerConfig

/-- A listener in JSON. -/
def toJson (l : ListenerConfig) : Json :=
  .object [("protocol", .text l.protocol.name), ("transport", .text l.transport.name),
    ("addr", .text l.address.toText)]

/-- The choice of a name, which may also be the only key of a table, with nothing in it. -/
def choice? : Json → Option String
  | .text name => some name
  | .object [(name, .object [])] | .object [(name, .list [])] => some name
  | _ => none

/-- Reads a protocol; its name is in lower case. -/
def protocol? (j : Json) : Option Protocol :=
  (choice? j).bind fun name => Protocol.all.find? fun p => p.name == name

/-- Reads a transport. -/
def transport? (j : Json) : Option Transport := (choice? j).bind Transport.ofName?

/-- Reads a listener. -/
def ofJson? (j : Json) : Option ListenerConfig := do
  let r ← Json.record? ["protocol", "transport", "addr"] j
  let protocol ← r.required "protocol" protocol?
  let transport ← r.defaulted "transport" .tcp transport?
  let address ← r.required "addr" fun j => (Json.asText? j).bind SocketAddress.ofText?
  some { protocol, transport, address }

end ListenerConfig

namespace DeviceEntry

/-- A device in JSON. -/
def toJson (d : DeviceEntry) : Json :=
  .object [("id", .integer d.id), ("unique_id", .text d.uniqueId)]

/-- Reads a device. -/
def ofJson? (j : Json) : Option DeviceEntry := do
  let r ← Json.record? ["id", "unique_id"] j
  let id ← r.required "id" (Json.asNat? 64)
  let uniqueId ← r.required "unique_id" Json.asText?
  some { id, uniqueId }

end DeviceEntry

namespace Config

/-- The settings where nothing is set. -/
def default : Config :=
  { listeners := []
    idleTimeout := .ofSeconds 600
    ignoreSessionCache := false
    positionBuffer := 1024
    protocols := []
    registerUnknown := false
    devices := []
    mediaRoot := "media"
    logLevel := "info"
    logFormat := "text"
    logColor := true }

/-- Settings to start from. -/
def sample : Config :=
  { default with
    listeners :=
      [⟨.egts, .tcp, .v4 [0, 0, 0, 0] 5020⟩, ⟨.watch, .tcp, .v4 [0, 0, 0, 0] 5093⟩]
    protocols := [(Protocol.egts.name, .default)]
    devices := [⟨1, "123456789012345"⟩, ⟨2, "8800000015"⟩] }

/-! ### Reading and writing -/

/-- Settings as an object. -/
def members (c : Config) : List (String × Json) :=
  [("server", .object [("listeners", .list (c.listeners.map ListenerConfig.toJson)),
      ("idle_timeout", .text c.idleTimeout.toText),
      ("ignore_session_cache", .bool c.ignoreSessionCache),
      ("position_buffer", .integer c.positionBuffer)]),
    ("protocols", .object (c.protocols.map fun entry => (entry.1, entry.2.toJson))),
    ("directory", .object [("register_unknown", .bool c.registerUnknown),
      ("devices", .list (c.devices.map DeviceEntry.toJson))]),
    ("media", .object [("root", .text c.mediaRoot)]),
    ("logging", .object [("level", .text c.logLevel), ("format", .text c.logFormat),
      ("color", .bool c.logColor)])]

/-- Settings in JSON. -/
def toJson (c : Config) : Json := .object c.members

/-- Reads the settings of the server. -/
def readServer? (c : Config) (j : Json) : Option Config := do
  let r ← Json.record? ["listeners", "idle_timeout", "ignore_session_cache", "position_buffer"] j
  let listeners ← r.defaulted "listeners" c.listeners (Json.asList? ListenerConfig.ofJson?)
  let idleTimeout ← r.defaulted "idle_timeout" c.idleTimeout
    fun j => (Json.asText? j).bind Duration.ofText?
  let ignoreSessionCache ← r.defaulted "ignore_session_cache" c.ignoreSessionCache Json.asBool?
  let positionBuffer ← r.defaulted "position_buffer" c.positionBuffer (Json.asNat? 64)
  some { c with listeners, idleTimeout, ignoreSessionCache, positionBuffer }

/-- Puts an entry in its place among others in the order of their names. -/
def insertByName {α : Type} (entry : String × α) : List (String × α) → List (String × α)
  | [] => [entry]
  | other :: rest =>
    if entry.1 < other.1 then entry :: other :: rest else other :: insertByName entry rest

/-- Entries in the order of their names. -/
def sortByName {α : Type} (entries : List (String × α)) : List (String × α) :=
  entries.foldr insertByName []

/-- Reads the options of the protocols. -/
def readProtocols? : Json → Option (List (String × ProtocolOptions))
  | .object entries =>
    (entries.mapM fun entry => (ProtocolOptions.ofJson? entry.2).map (entry.1, ·)).map sortByName
  | _ => none

/-- Reads the settings of the directory. -/
def readDirectory? (c : Config) (j : Json) : Option Config := do
  let r ← Json.record? ["register_unknown", "devices"] j
  let registerUnknown ← r.defaulted "register_unknown" c.registerUnknown Json.asBool?
  let devices ← r.defaulted "devices" c.devices (Json.asList? DeviceEntry.ofJson?)
  some { c with registerUnknown, devices }

/-- Reads the settings of the media store. -/
def readMedia? (c : Config) (j : Json) : Option Config := do
  let r ← Json.record? ["root"] j
  let mediaRoot ← r.defaulted "root" c.mediaRoot Json.asText?
  some { c with mediaRoot }

/-- Reads the settings of the log. -/
def readLogging? (c : Config) (j : Json) : Option Config := do
  let r ← Json.record? ["level", "format", "color"] j
  let logLevel ← r.defaulted "level" c.logLevel Json.asText?
  let logFormat ← r.defaulted "format" c.logFormat Json.asText?
  let logColor ← r.defaulted "color" c.logColor Json.asBool?
  some { c with logLevel, logFormat, logColor }

/-- Reads settings. -/
def ofJson? (j : Json) : Option Config := do
  let r ← Json.record? ["server", "protocols", "directory", "media", "logging"] j
  let c ← r.defaulted "server" default (readServer? default)
  let protocols ← r.defaulted "protocols" [] readProtocols?
  let c ← r.defaulted "directory" { c with protocols } (readDirectory? { c with protocols })
  let c ← r.defaulted "media" c (readMedia? c)
  r.defaulted "logging" c (readLogging? c)

/-! ### Checking -/

/-- The first thing wrong with a list of devices, of which some numbers and identifiers are
taken. -/
def deviceFault? (ids : List Nat) (uniqueIds : List String) : List DeviceEntry → Option String
  | [] => none
  | d :: rest =>
    if d.id = 0 then some s!"Device {Text.Quoted.encode d.uniqueId} has id 0"
    else if ids.contains d.id then some s!"Duplicate device id {d.id}"
    else if uniqueIds.contains d.uniqueId then
      some s!"Duplicate device identifier {Text.Quoted.encode d.uniqueId}"
    else deviceFault? (d.id :: ids) (d.uniqueId :: uniqueIds) rest

/-- The first name among the options that no protocol has. -/
def unknownProtocol? (c : Config) : Option String :=
  (c.protocols.map (·.1)).find? fun name => !(Protocol.ofName name).isOk

/-- The first thing wrong with settings. -/
def fault? (c : Config) : Option String :=
  match c.unknownProtocol? with
  | some name => some s!"Options given for unknown protocol {Text.Quoted.encode name}"
  | none =>
    (deviceFault? [] [] c.devices).orElse fun _ =>
      if c.positionBuffer = 0 then some "position_buffer must be positive" else none

/-- Checks settings. -/
def validate (c : Config) : Except Error Unit :=
  match c.fault? with
  | some reason => .error (.invalidConfig reason)
  | none => .ok ()

/-- Checks settings that a server shall run with. -/
def validateForServe (c : Config) : Except Error Unit := do
  c.validate
  if c.listeners.isEmpty then .error (.invalidConfig "No listeners configured")

/-! ### Files -/

/-- Reads the text of a file. -/
def load (text : String) : Except Error Config :=
  match (Toml.parse? text).bind ofJson? with
  | none => .error (.config "Failed to parse config")
  | some c => do
    c.validate
    pure c

/-- The text of a file. -/
def save (c : Config) : String := Toml.Printer.document c.members

/-- Writes the text of a file, unless a number does not fit in it. -/
def store (c : Config) : Except Error String :=
  if Toml.Printer.fits c.toJson then .ok c.save
  else .error (.config "Failed to serialize config: out-of-range value for u64 type")

/-! ### Use -/

/-- The options of a protocol among those given by name. -/
def optionsFor (table : List (String × ProtocolOptions)) (p : Protocol) : ProtocolOptions :=
  match table.find? fun entry => Text.toAsciiLower entry.1 == Text.toAsciiLower p.name with
  | some entry => entry.2
  | none => .default

/-- The options of a protocol. -/
def protocolOptions (c : Config) (p : Protocol) : ProtocolOptions := optionsFor c.protocols p

/-- The built-in directory. -/
def directory (c : Config) : DeviceList :=
  .ofList c.registerUnknown (c.devices.map fun d => (d.uniqueId, ⟨UInt64.ofNat d.id⟩))

end Config
end TrackerGateway
