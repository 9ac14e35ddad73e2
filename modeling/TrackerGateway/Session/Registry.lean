import TrackerGateway.Session.Directory
import TrackerGateway.Position

/-!
# The registry of device sessions, which all connections share

A session says which device a connection, or an identifier, stands for. `Registry.resolve` finds or
makes the session of a unit; the directory is asked only for identifiers that have no known number
yet. Each change that a listener may want to know is added to `events`. The registry also keeps the
last location fix of every device.
-/

namespace TrackerGateway

/-- What the sessions of a decoder are kept under. -/
inductive SessionMode where
  /-- One session a connection, made when the device first says who it is. -/
  | byConnection
  /-- One session an identifier; every unit says who sends it. -/
  | byIdentifier
  deriving DecidableEq, Repr

/-- What a session is kept under. -/
inductive SessionKey where
  | connection (id : ConnectionId)
  | identifier (uniqueId : String)
  deriving DecidableEq, Repr

/-- A device at work. -/
structure Session where
  deviceId : DeviceId
  /-- The identifier the device sent. -/
  uniqueId : String
  key : SessionKey
  deriving DecidableEq, Repr

/-- A change of the registry. -/
inductive SessionEvent where
  /-- A session was made. -/
  | resolved (key : SessionKey) (deviceId : DeviceId) (uniqueId : String)
  /-- The directory did not know an identifier. -/
  | unknown (uniqueId : String) (connection : Option ConnectionId)
  /-- A connection closed and its session went. -/
  | released (connection : ConnectionId)
  deriving DecidableEq, Repr

/-- The sessions, and what is known about identifiers and devices. -/
structure Registry where
  /-- The number of each identifier that was asked for; none where the directory failed. -/
  identities : Table String (Option DeviceId)
  connections : Table ConnectionId Session
  identifiers : Table String Session
  /-- The last location fix of each device. -/
  lastPositions : Table DeviceId Position
  /-- All changes, first to last. -/
  events : List SessionEvent
  /-- How often the directory was asked. -/
  lookups : Nat

namespace Registry

/-- The registry before the first unit. -/
def empty : Registry := ⟨[], [], [], [], [], 0⟩

/-- Adds a change to the log. -/
def log (r : Registry) (event : SessionEvent) : Registry := { r with events := r.events ++ [event] }

/-- The session of a connection. -/
def sessionOf? (r : Registry) (connection : ConnectionId) : Option Session :=
  Table.get? r.connections connection

/-- Takes the directory's answer for an identifier. A number is kept. Where the identifier is not
known nothing is kept of it; where the directory failed, that it was asked for. -/
def record (r : Registry) (uniqueId : String) (connection : Option ConnectionId) :
    Lookup → Except Error (Option DeviceId) × Registry
  | .known id => (.ok (some id), { r with identities := Table.put r.identities uniqueId (some id) })
  | .unknown =>
    (.ok none, { r with identities := Table.erase r.identities uniqueId }.log
      (.unknown uniqueId connection))
  | .failed error => (.error error, { r with identities := Table.put r.identities uniqueId none })

/-- The number of an identifier, from memory or else from the directory. -/
def identify {δ : Type} [Directory δ] (r : Registry) (directory : δ) (uniqueId : String)
    (connection : Option ConnectionId) : Except Error (Option DeviceId) × Registry × δ :=
  match Table.get? r.identities uniqueId with
  | some (some id) => (.ok (some id), r, directory)
  | _ =>
    let (answer, directory) := Directory.lookup directory uniqueId
    let (result, r) := { r with lookups := r.lookups + 1 }.record uniqueId connection answer
    (result, r, directory)

/-- Keeps a new session for a connection. -/
def bindConnection (r : Registry) (connection : ConnectionId) (uniqueId : String) (id : DeviceId) :
    Session × Registry :=
  let session : Session := ⟨id, uniqueId, .connection connection⟩
  (session, { r with connections := Table.put r.connections connection session }.log
    (.resolved session.key id uniqueId))

/-- Keeps a new session for an identifier. -/
def bindIdentifier (r : Registry) (uniqueId : String) (id : DeviceId) : Session × Registry :=
  let session : Session := ⟨id, uniqueId, .identifier uniqueId⟩
  (session, { r with identifiers := Table.put r.identifiers uniqueId session }.log
    (.resolved session.key id uniqueId))

/-- The session for an identifier on a connection, which takes the place of another device's. -/
def resolveOnConnection {δ : Type} [Directory δ] (r : Registry) (directory : δ)
    (connection : ConnectionId) (uniqueId : String) :
    Except Error (Option Session) × Registry × δ :=
  match (r.sessionOf? connection).filter fun s => s.uniqueId == uniqueId with
  | some session => (.ok (some session), r, directory)
  | none =>
    match r.identify directory uniqueId (some connection) with
    | (.ok (some id), r, directory) =>
      let (session, r) := r.bindConnection connection uniqueId id
      (.ok (some session), r, directory)
    | (.ok none, r, directory) => (.ok none, r, directory)
    | (.error error, r, directory) => (.error error, r, directory)

/-- The session of an identifier, on whichever connection. -/
def resolveIdentifier {δ : Type} [Directory δ] (r : Registry) (directory : δ) (uniqueId : String) :
    Except Error (Option Session) × Registry × δ :=
  match Table.get? r.identifiers uniqueId with
  | some session => (.ok (some session), r, directory)
  | none =>
    match r.identify directory uniqueId none with
    | (.ok (some id), r, directory) =>
      let (session, r) := r.bindIdentifier uniqueId id
      (.ok (some session), r, directory)
    | (.ok none, r, directory) => (.ok none, r, directory)
    | (.error error, r, directory) => (.error error, r, directory)

/-- The session for a unit; none means that the device is not known. A unit that does not say who
sends it goes by the session of its connection. -/
def resolve {δ : Type} [Directory δ] (r : Registry) (directory : δ) (mode : SessionMode)
    (connection : ConnectionId) (identifier : Option String) :
    Except Error (Option Session) × Registry × δ :=
  match mode, identifier with
  | .byConnection, none => (.ok (r.sessionOf? connection), r, directory)
  | .byConnection, some uniqueId => r.resolveOnConnection directory connection uniqueId
  | .byIdentifier, none => (.ok none, r, directory)
  | .byIdentifier, some uniqueId => r.resolveIdentifier directory uniqueId

/-- Drops the session of a connection that closed, and says whether it had one. -/
def release (r : Registry) (connection : ConnectionId) : Bool × Registry :=
  if Table.holds r.connections connection then
    (true, { r with connections := Table.erase r.connections connection }.log
      (.released connection))
  else (false, r)

/-- Forgets an identifier and its session, and says whether anything was known of it. -/
def evict (r : Registry) (uniqueId : String) : Bool × Registry :=
  (Table.holds r.identifiers uniqueId || Table.holds r.identities uniqueId,
    { r with identifiers := Table.erase r.identifiers uniqueId,
             identities := Table.erase r.identities uniqueId })

/-- Keeps a position as its device's last, if it is a location fix of a device. -/
def updateLast (r : Registry) (position : Position) : Registry :=
  if position.isFix && position.deviceId.isSet then
    { r with lastPositions := Table.put r.lastPositions position.deviceId position }
  else r

/-- The last location fix of a device. -/
def lastPosition? (r : Registry) (device : DeviceId) : Option Position :=
  Table.get? r.lastPositions device

/-- How many sessions there are. -/
def activeCount (r : Registry) : Nat := r.connections.length + r.identifiers.length

end Registry
end TrackerGateway
