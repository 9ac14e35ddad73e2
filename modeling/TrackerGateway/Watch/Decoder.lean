import TrackerGateway.Session.Services
import TrackerGateway.Watch.Message
import TrackerGateway.Watch.Peer

/-!
# Decoding watch frames

A frame of a device that the directory knows is answered where its kind asks for it. A report yields
the position it tells; the other messages with readings, pictures or voice yield a status message at
the place of the device's last fix. What cannot be read yields nothing.
-/

namespace TrackerGateway.Watch

/-- A signed number of 64 bits as an attribute. -/
def reading? (value : Option String) : Option Attribute :=
  (value.bind (Text.Integer.decimal? (.signed 64))).map .integer

namespace Message

/-- The status message of a keep-alive that has the values for it. -/
def keepAliveStatus? (m : Message) (status : Position) : Option Position :=
  if m.body.isEmpty then none
  else
    match m.values with
    | steps :: _ :: battery :: _ =>
      some ((status.set? "steps" (reading? (some steps))).set? "batteryLevel"
        (reading? (some battery)))
    | _ => none

/-- The status message of a heart rate. -/
def heartRateStatus? (m : Message) (status : Position) : Option Position :=
  if m.body.isEmpty then none else some (status.set? "heartRate" (reading? m.values[0]?))

/-- The status message of a blood pressure with its heart rate. -/
def bloodPressureStatus? (m : Message) (status : Position) : Option Position :=
  if m.body.isEmpty then none
  else some (((status.set? "pressureHigh" (reading? m.values[0]?)).set? "pressureLow"
    (reading? m.values[1]?)).set? "heartRate" (reading? m.values[2]?))

end Message

namespace Peer

variable {δ μ : Type}

/-- A status message of a device at the place of its last fix. -/
def status (services : Services δ μ) (device : DeviceId) (deviceTime : Option Instant) : Position :=
  { Position.blank protocolName with deviceId := device }.withLastLocation
    (services.registry.lastPosition? device) deviceTime

/-- Stores data of a device; the reference goes into its status message. -/
def keep [MediaStore μ] (services : Services δ μ) (uniqueId : String) (data : Bytes)
    (extension key : String) (status : Position) : Except Error (Option Position) × Services δ μ :=
  let (result, services) := services.store uniqueId data extension
  (result.map fun reference => some (status.set key (.text reference)), services)

/-- What a message of a device tells. -/
def interpret [MediaStore μ] (services : Services δ μ) (receivedAt : Instant) (uniqueId : String)
    (device : DeviceId) (m : Message) : Except Error (Option Position) × Services δ μ :=
  match m.kind with
  | .keepAlive => (.ok (m.keepAliveStatus? (status services device none)), services)
  | .report | .alarm =>
    (.ok ((Report.position? m.text).map fun p => { p with deviceId := device }), services)
  | .heartRate => (.ok (m.heartRateStatus? (status services device (some receivedAt))), services)
  | .bloodPressure =>
    (.ok (m.bloodPressureStatus? (status services device (some receivedAt))), services)
  | .image =>
    match m.imageData? with
    | some data => keep services uniqueId data "jpg" "image" (status services device none)
    | none => (.ok none, services)
  | .voice => keep services uniqueId m.body "amr" "audio" (status services device none)
  | .hello | .check | .other => (.ok none, services)

/-- Answers a message in the words of its frame. -/
def answer (services : Services δ μ) (header : Header) (m : Message) : Services δ μ :=
  match m.reply? with
  | some content =>
    services.respond
      (Utf8.encode (frameText header.manufacturer header.deviceId header.index content))
  | none => services

/-- Decodes a frame of a connection, which came at some time. -/
def decode [Directory δ] [MediaStore μ] (peer : Peer) (services : Services δ μ)
    (connection : ConnectionId) (receivedAt : Instant) (frame : Bytes) :
    Except Error (List Position) × Peer × Services δ μ :=
  match Header.scan? frame with
  | none => (.ok [], peer, services)
  | some header =>
    let peer := peer.heard header
    match services.resolve .byConnection connection (some header.deviceId) with
    | (.error error, services) => (.error error, peer, services)
    | (.ok none, services) => (.ok [], peer, services)
    | (.ok (some session), services) =>
      let m := Message.ofFrame header frame
      let (found, services) :=
        interpret (answer services header m) receivedAt header.deviceId session.deviceId m
      (found.map Option.toList, peer.identified header, services)

end Peer
end TrackerGateway.Watch
