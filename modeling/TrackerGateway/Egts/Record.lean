import TrackerGateway.Egts.Packet

/-!
# Records and sub-records, the contents of a packet's frame data

A record says which service it belongs to and may say which object it is about, and holds
sub-records, each with a type and data. `Record.build` and `SubRecord.build` write them without
optional fields. `readAll` takes records or sub-records off until one is cut short; that it was cut
short is told beside those before it.
-/

namespace TrackerGateway.Egts

/-! ### Sub-records -/

/-- A sub-record. -/
structure SubRecord where
  kind : Nat
  data : Bytes
  deriving DecidableEq, Repr

namespace SubRecord

/-- Acknowledges a record. -/
def recordResponse : Nat := 0

/-- Says which terminal is at the other end. -/
def terminalIdentity : Nat := 1

/-- Answers a terminal's identity. -/
def resultCode : Nat := 7

/-- Where and when the device was. -/
def positionData : Nat := 16

/-- How exact the position is. -/
def extendedPosition : Nat := 17

/-- Digital and analog inputs. -/
def sensors : Nat := 18

/-- The state of the supply. -/
def terminalState : Nat := 20

/-- A command. -/
def commandData : Nat := 51

/-- Writes a sub-record; of longer data the length has its lowest 16 bits only. -/
def build (kind : Nat) (data : Bytes) : Bytes :=
  Bytes.ofLe 1 kind ++ Bytes.ofLe 2 data.length ++ data

/-- The sub-record ahead and the place after it. -/
def next (r : Reader) : Except ProtocolFault (SubRecord × Reader) := do
  let (kind, r) ← r.le 1
  let (length, r) ← r.le 2
  let (data, r) ← r.take length
  .ok (⟨kind, data⟩, r)

theorem next_shorter {r r' : Reader} {sub : SubRecord} (h : next r = .ok (sub, r')) :
    r'.rest.length < r.rest.length := by
  unfold next at h
  simp only [bind, Except.bind] at h
  cases h1 : r.le 1 with
  | error fault => rw [h1] at h; cases h
  | ok first =>
    rw [h1] at h
    cases h2 : first.2.le 2 with
    | error fault => simp only [h2] at h; cases h
    | ok second =>
      simp only [h2] at h
      cases h3 : second.2.take second.1 with
      | error fault => simp only [h3] at h; cases h
      | ok third =>
        simp only [h3] at h
        cases h
        have := Reader.length_of_le h1
        have := Reader.length_of_le h2
        have := Reader.length_of_take h3
        omega

/-- The sub-records ahead, and the cause if one is cut short. -/
def readAll (r : Reader) : List SubRecord × Option ProtocolFault :=
  if r.isEmpty then ([], none)
  else
    match h : next r with
    | .ok (sub, r') =>
      have := next_shorter h
      let (more, fault) := readAll r'
      (sub :: more, fault)
    | .error fault => ([], some fault)
termination_by r.rest.length

end SubRecord

/-! ### Records -/

/-- A record. -/
structure Record where
  number : Nat
  objectId : Option Nat
  eventId : Option Nat
  time : Option Nat
  service : Nat
  data : Bytes
  deriving DecidableEq, Repr

namespace Record

/-- The service that knows who a terminal is. -/
def authService : Nat := 1

/-- The service for telemetry. -/
def teledataService : Nat := 2

/-- The service for commands. -/
def commandService : Nat := 4

/-- The optional fields of a record's header: object, event and time. -/
def optionalFields : List Reader.FlagField := [⟨0, 4⟩, ⟨1, 4⟩, ⟨2, 4⟩]

/-- The number in the optional field of a bit, if it was there. -/
def field? (bit : Nat) (found : List (Reader.FlagField × Bytes)) : Option Nat :=
  (found.find? fun f => f.1.bit == bit).map fun f => Bytes.le f.2

/-- Writes a record without optional fields, from and to one service. -/
def build (number service : Nat) (data : Bytes) : Bytes :=
  Bytes.ofLe 2 data.length ++ Bytes.ofLe 2 number ++ Bytes.ofLe 1 0 ++ Bytes.ofLe 1 service ++
    Bytes.ofLe 1 service ++ data

/-- The record ahead and the place after it. -/
def next (r : Reader) : Except ProtocolFault (Record × Reader) := do
  let (length, r) ← r.le 2
  let (number, r) ← r.le 2
  let (flags, r) ← r.le 1
  let (found, r) ← r.allFields flags optionalFields
  let (service, r) ← r.le 1
  let (_recipient, r) ← r.le 1
  let (data, r) ← r.take length
  .ok (⟨number, field? 0 found, field? 1 found, field? 2 found, service, data⟩, r)

theorem next_shorter {r r' : Reader} {record : Record} (h : next r = .ok (record, r')) :
    r'.rest.length < r.rest.length := by
  unfold next at h
  simp only [bind, Except.bind] at h
  cases h1 : r.le 2 with
  | error fault => rw [h1] at h; cases h
  | ok a =>
    rw [h1] at h
    cases h2 : a.2.le 2 with
    | error fault => simp only [h2] at h; cases h
    | ok b =>
      simp only [h2] at h
      cases h3 : b.2.le 1 with
      | error fault => simp only [h3] at h; cases h
      | ok c =>
        simp only [h3] at h
        cases h4 : c.2.allFields c.1 optionalFields with
        | error fault => simp only [h4] at h; cases h
        | ok d =>
          simp only [h4] at h
          cases h5 : d.2.le 1 with
          | error fault => simp only [h5] at h; cases h
          | ok e =>
            simp only [h5] at h
            cases h6 : e.2.le 1 with
            | error fault => simp only [h6] at h; cases h
            | ok f =>
              simp only [h6] at h
              cases h7 : f.2.take a.1 with
              | error fault => simp only [h7] at h; cases h
              | ok g =>
                simp only [h7] at h
                cases h
                have := Reader.length_of_le h1
                have := Reader.length_of_le h2
                have := Reader.length_of_le h3
                have := Reader.length_of_allFields h4
                have := Reader.length_of_le h5
                have := Reader.length_of_le h6
                have := Reader.length_of_take h7
                omega

/-- The records ahead, and the cause if one is cut short. -/
def readAll (r : Reader) : List Record × Option ProtocolFault :=
  if r.isEmpty then ([], none)
  else
    match h : next r with
    | .ok (record, r') =>
      have := next_shorter h
      let (more, fault) := readAll r'
      (record :: more, fault)
    | .error fault => ([], some fault)
termination_by r.rest.length

/-- The sub-records of a record, and the cause if one is cut short. -/
def subRecords (record : Record) : List SubRecord × Option ProtocolFault :=
  SubRecord.readAll (.ofBytes record.data)

end Record

/-- The records of a packet, and the cause if one is cut short. -/
def Packet.records (packet : Packet) : List Record × Option ProtocolFault :=
  Record.readAll (.ofBytes packet.frame)

end TrackerGateway.Egts
