import TrackerGateway.Egts.Record
import TrackerGateway.Position

/-!
# What sub-records say: the identifiers of a terminal, and the parts of a position

`Telemetry.apply` puts the contents of one sub-record into the position of its record; types that
say nothing about a position leave it as it is.
-/

namespace TrackerGateway.Egts

namespace Terminal

/-- The optional fields of a terminal's identity: dispatcher, IMEI, IMSI, language, network, buffer
size and subscriber number. -/
def fields : List Reader.FlagField := [⟨0, 2⟩, ⟨1, 15⟩, ⟨2, 16⟩, ⟨3, 3⟩, ⟨5, 3⟩, ⟨6, 2⟩, ⟨7, 15⟩]

/-- Whether the field of a bit identifies the terminal. -/
def isIdentifier (bit : Nat) : Bool := bit == 1 || bit == 2 || bit == 7

/-- The identifiers in a terminal's identity, in order, without those that are only padding. -/
def identifiers (data : Bytes) : Except ProtocolFault (List String) := do
  let (_objectId, r) ← (Reader.ofBytes data).le 4
  let (flags, r) ← r.le 1
  let (found, _) ← r.allFields flags fields
  .ok (((found.filter fun f => isIdentifier f.1.bit).map fun f => Reader.paddedText f.2).filter
    (! ·.isEmpty))

end Terminal

namespace Telemetry

/-- Protocol time counts from 2010-01-01T00:00:00Z. -/
def epoch : Int := 1262304000

/-- Tenths of a unit. -/
def tenths (n : Nat) : Float := Json.floatOfInt n * 0.1

/-- The part of a circle that a number of 32 bits stands for, where the greatest is `span`
degrees. -/
def degrees (span : Float) (n : Nat) : Float :=
  Json.floatOfInt n * span / Json.floatOfInt 4294967295

/-- The number negated where a flag says so. -/
def signed (negative : Bool) (x : Float) : Float := if negative then -x else x

/-- Position, speed, course, odometer and inputs. -/
def positionData (data : Bytes) (p : Position) : Except ProtocolFault Position := do
  let (time, r) ← (Reader.ofBytes data).le 4
  let (latitude, r) ← r.le 4
  let (longitude, r) ← r.le 4
  let (flags, r) ← r.le 1
  let (speed, r) ← r.le 2
  let (course, r) ← r.le 1
  let (odometer, r) ← r.le 3
  let (input, r) ← r.le 1
  let (event, r) ← r.le 1
  let p := { p with
    fixTime := Instant.ofSeconds? (time + epoch)
    valid := Bits.isSet flags 0
    latitude := signed (Bits.isSet flags 5) (degrees 90 latitude)
    longitude := signed (Bits.isSet flags 6) (degrees 180 longitude)
    speed := Units.knotsOfKph (tenths (Bits.below speed 14)) }
  let p := p.setCourse (Json.floatOfInt (course + if Bits.isSet speed 15 then 256 else 0 : Nat))
  let p := p.set "odometer" (.integer (odometer * 100))
  let p := p.set "input" (.integer input)
  let p := p.set "event" (.integer event)
  if Bits.isSet flags 7 then
    let (altitude, _) ← r.signedLe 3
    .ok { p with altitude := Json.floatOfInt altitude }
  else .ok p

/-- The optional fields about precision, and the names they are reported by. -/
def precisionFields : List (Reader.FlagField × String) :=
  [(⟨0, 2⟩, "vdop"), (⟨1, 2⟩, "hdop"), (⟨2, 2⟩, "pdop"), (⟨3, 1⟩, "sat")]

/-- Precision and satellites. -/
def extendedPosition (data : Bytes) (p : Position) : Except ProtocolFault Position := do
  let (flags, r) ← (Reader.ofBytes data).le 1
  let (found, _) ← r.allFields flags (precisionFields.map (·.1))
  .ok (found.foldl (fun p f =>
    match precisionFields.lookup f.1 with
    | some name => p.set name (.integer (Bytes.le f.2))
    | none => p) p)

/-- The inputs of which a bit is set, each of so many octets. -/
def inputs (group : String) (flags width : Nat) (p : Position) (r : Reader) :
    Except ProtocolFault (Position × Reader) :=
  (List.range 8).foldlM (fun (p, r) i =>
    if Bits.isSet flags i then
      (r.le width).map fun (value, r) => (p.set s!"{group}{i + 1}" (.integer value), r)
    else .ok (p, r)) (p, r)

/-- Digital inputs, outputs and analog inputs. -/
def sensors (data : Bytes) (p : Position) : Except ProtocolFault Position := do
  let (digital, r) ← (Reader.ofBytes data).le 1
  let (output, r) ← r.le 1
  let (analog, r) ← r.le 1
  let (p, r) ← inputs "di" digital 1 (p.set "output" (.integer output)) r
  let (p, _) ← inputs "adc" analog 3 p r
  .ok p

/-- The voltages of supply and battery. -/
def terminalState (data : Bytes) (p : Position) : Except ProtocolFault Position := do
  let (_state, r) ← (Reader.ofBytes data).le 1
  let (power, r) ← r.le 1
  let (battery, _) ← r.le 1
  .ok ((p.set "power" (.double (tenths power))).set "battery" (.double (tenths battery)))

/-- Puts what a sub-record says into a position. -/
def apply (sub : SubRecord) (p : Position) : Except ProtocolFault Position :=
  if sub.kind = SubRecord.positionData then positionData sub.data p
  else if sub.kind = SubRecord.extendedPosition then extendedPosition sub.data p
  else if sub.kind = SubRecord.sensors then sensors sub.data p
  else if sub.kind = SubRecord.terminalState then terminalState sub.data p
  else .ok p

end Telemetry
end TrackerGateway.Egts
