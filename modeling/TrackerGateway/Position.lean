import TrackerGateway.Attribute
import TrackerGateway.Network
import TrackerGateway.Identity
import TrackerGateway.Time.Instant
import TrackerGateway.Units

/-!
# Positions: what a device reported, in one form for all protocols

A position with a fix time is a location fix. One without is a status message; it may repeat the
coordinates of the device's last fix (`withLastLocation`).
-/

namespace TrackerGateway

/-- A report of a device. -/
structure Position where
  /-- The name of the protocol it came by. -/
  protocol : String
  deviceId : DeviceId
  /-- When the device was there. -/
  fixTime : Option Instant
  /-- When the device reported, where that is another time. -/
  deviceTime : Option Instant
  valid : Bool
  /-- Degrees, negative in the south. -/
  latitude : Float
  /-- Degrees, negative in the west. -/
  longitude : Float
  /-- Metres. -/
  altitude : Float
  /-- Knots. -/
  speed : Float
  /-- Degrees. -/
  course : Float
  attributes : Attributes
  network : Option Network

namespace Position

/-- A report with nothing in it. -/
def blank (protocol : String) : Position :=
  { protocol, deviceId := .unset, fixTime := none, deviceTime := none, valid := false,
    latitude := 0,
    longitude := 0, altitude := 0, speed := 0, course := 0, attributes := [], network := none }

/-- Whether the report is a location fix. -/
def isFix (p : Position) : Bool := p.fixTime.isSome

/-- The report with the course brought into range. -/
def setCourse (p : Position) (course : Float) : Position :=
  { p with course := Units.normalizeCourse course }

/-- The report with an attribute in place of its former value. -/
def set (p : Position) (key : String) (value : Attribute) : Position :=
  { p with attributes := Table.put p.attributes key value }

/-- The report with the value of an attribute, where there is one. -/
def set? (p : Position) (key : String) : Option Attribute → Position
  | some value => p.set key value
  | none => p

/-- The value of an attribute. -/
def get? (p : Position) (key : String) : Option Attribute := Table.get? p.attributes key

/-- The report with the networks seen, if any was. -/
def setNetwork (p : Position) (network : Network) : Position :=
  { p with network := if network.isEmpty then none else some network }

/-- The report as a status message at the place of the last fix. Its time is the device's own, or
else that of the fix. -/
def withLastLocation (p : Position) (last : Option Position) (deviceTime : Option Instant) :
    Position :=
  let p :=
    { p with fixTime := none, deviceTime := deviceTime.orElse fun _ => last.bind (·.fixTime) }
  match last with
  | none => p
  | some l =>
    { p with valid := l.valid, latitude := l.latitude, longitude := l.longitude,
             altitude := l.altitude, speed := l.speed, course := l.course }

/-- A report in JSON. -/
def toJson (p : Position) : Json :=
  let time (t : Instant) : Json := .text t.toText
  .object <|
    [("protocol", .text p.protocol), ("deviceId", .integer p.deviceId.value.toNat),
      ("fixTime", (p.fixTime.map time).getD .null)] ++
    Json.ifSome "deviceTime" time p.deviceTime ++
    [("valid", .bool p.valid), ("latitude", .float p.latitude), ("longitude", .float p.longitude),
      ("altitude", .float p.altitude), ("speed", .float p.speed), ("course", .float p.course),
      ("attributes", p.attributes.toJson)] ++
    Json.ifSome "network" Network.toJson p.network

/-- Reads a device number. -/
def deviceId? (j : Json) : Option DeviceId := (Json.asNat? 64 j).map fun n => ⟨UInt64.ofNat n⟩

/-- Reads a report. -/
def ofJson? (j : Json) : Option Position := do
  let r ← Json.record? ["protocol", "deviceId", "fixTime", "deviceTime", "valid", "latitude",
    "longitude", "altitude", "speed", "course", "attributes", "network"] j
  let time (j : Json) := (Json.asText? j).bind Instant.ofText?
  let protocol ← r.required "protocol" Json.asText?
  let deviceId ← r.required "deviceId" deviceId?
  let fixTime ← r.optional "fixTime" time
  let deviceTime ← r.optional "deviceTime" time
  let valid ← r.required "valid" Json.asBool?
  let latitude ← r.required "latitude" Json.asFloat?
  let longitude ← r.required "longitude" Json.asFloat?
  let altitude ← r.required "altitude" Json.asFloat?
  let speed ← r.required "speed" Json.asFloat?
  let course ← r.required "course" Json.asFloat?
  let attributes ← r.required "attributes" Attributes.ofJson?
  let network ← r.optional "network" Network.ofJson?
  some { protocol, deviceId, fixTime, deviceTime, valid, latitude, longitude, altitude, speed,
         course, attributes, network }

end Position
end TrackerGateway
