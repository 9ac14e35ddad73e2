import TrackerGateway.Proofs.Egts.Attribution
import TrackerGateway.Proofs.Session.Retention

/-!
# Units in which no terminal comes late

The positions of a unit are of the devices that their connection had when they were found, and it
may have another device at the end. It has not if no terminal says who it is after another has
said where it was (`Record.Ordered`): then all positions are of the device that the unit leaves
(`deviceId_of_decode`), whatever the directory answers.
-/

namespace TrackerGateway.Egts

namespace Record

/-- Whether a terminal says in a record who it is. -/
def tellsTerminal (record : Record) : Bool :=
  record.subRecords.1.any (·.kind == SubRecord.terminalIdentity)

/-- Whether a record is telemetry that says where the device was. -/
def tellsPlace (record : Record) : Bool :=
  record.service == teledataService && record.hasPosition

/-- Whether no terminal says who it is after another has said where it was. -/
def Ordered (records : List Record) : Prop :=
  records.Pairwise fun earlier later => earlier.tellsPlace = true → later.tellsTerminal = false

end Record

namespace Decoder.Run

variable {δ μ : Type} {connection : ConnectionId}

/-- A run with records ahead of it. The positions that it has found are of the connection's
device, and once there are some, no terminal says who it is. -/
structure Level (connection : ConnectionId) (run : Run δ μ) (ahead : List Record) : Prop where
  mode : run.decoder.mode = .byConnection
  device : ∀ p ∈ run.positions, run.sessions.device? connection = some p.deviceId
  ordered : Record.Ordered ahead
  clear : run.positions = [] ∨ ∀ record ∈ ahead, record.tellsTerminal = false

theorem Level.drop {run : Run δ μ} {records ahead : List Record}
    (level : Level connection run (records ++ ahead)) : Level connection run ahead where
  mode := level.mode
  device := level.device
  ordered := (List.pairwise_append.1 level.ordered).2.1
  clear := level.clear.imp_right fun anonymous record member =>
    anonymous record (List.mem_append_right _ member)

variable [Directory δ]

/-- Sub-records without a terminal's identity do nothing but fill a position. -/
theorem takeSubRecords_of_anonymous {subs : List SubRecord}
    (anonymous : subs.any (·.kind == SubRecord.terminalIdentity) = false) (run : Run δ μ)
    (service : Nat) (fault : Option ProtocolFault) (position : Position) :
    (run.takeSubRecords connection service fault subs position).2 = run := by
  induction subs generalizing position with
  | nil => cases fault <;> rfl
  | cons sub subs ih =>
    rw [List.any_cons, Bool.or_eq_false_iff, beq_eq_false_iff_ne] at anonymous
    rw [takeSubRecords, if_neg anonymous.1]
    cases Telemetry.apply sub position with
    | error fault => rfl
    | ok changed => exact ih anonymous.2 changed

/-- Only position data make a fix of a record's position. -/
theorem isFix_of_takeSubRecords {run run' : Run δ μ} {service : Nat} {fault : Option ProtocolFault}
    {subs : List SubRecord} {position told : Position}
    (taken : run.takeSubRecords connection service fault subs position = (.ok told, run')) :
    told.isFix = (position.isFix || subs.any (·.kind == SubRecord.positionData)) := by
  induction subs generalizing run position with
  | nil =>
    cases fault with
    | none =>
      cases taken
      exact (Bool.or_false _).symm
    | some fault => cases taken
  | cons sub subs ih =>
    rw [takeSubRecords] at taken
    rw [List.any_cons]
    by_cases kind : sub.kind = SubRecord.terminalIdentity
    · rw [if_pos kind] at taken
      have other : (sub.kind == SubRecord.positionData) = false := by
        rw [kind]
        rfl
      rw [other, Bool.false_or]
      cases identified : run.identify connection service sub.data with
      | mk error between =>
        rw [identified] at taken
        cases error with
        | none => exact ih taken
        | some error => cases taken
    · rw [if_neg kind] at taken
      rcases Telemetry.apply_acts sub with ⟨fault, fails⟩ | ⟨change, succeeds, isFix⟩
      · rw [fails] at taken
        cases taken
      · rw [succeeds] at taken
        rw [ih taken, isFix, Bool.or_assoc]

theorem Level.takeSubRecords {run : Run δ μ} {record : Record} {ahead : List Record}
    (level : Level connection run (record :: ahead)) (packetId : Nat) :
    Level connection ((run.acknowledge packetId record).takeSubRecords connection record.service
      record.subRecords.2 record.subRecords.1 (.blank protocolName)).2 ahead := by
  have acknowledged : (run.acknowledge packetId record).positions = run.positions := rfl
  have found := keeps_takeSubRecords (lasting_positions connection run.positions) acknowledged
    record.service record.subRecords.2 record.subRecords.1 (.blank protocolName)
  have keyed : (run.acknowledge packetId record).decoder.mode = .byConnection := level.mode
  have mode := keeps_takeSubRecords (lasting_mode connection .byConnection) keyed record.service
    record.subRecords.2 record.subRecords.1 (.blank protocolName)
  refine ⟨mode, ?_, (List.pairwise_cons.1 level.ordered).2, ?_⟩
  · rw [found]
    rcases level.clear with none | anonymous
    · rw [none]
      rintro p ⟨⟩
    · rw [takeSubRecords_of_anonymous (anonymous record List.mem_cons_self)]
      exact level.device
  · rw [found]
    exact level.clear.imp_right fun anonymous later member =>
      anonymous later (List.mem_cons_of_mem _ member)

/-- A position is added with the device of the connection, and no terminal says who it is later. -/
theorem Level.reportPosition {run : Run δ μ} {record : Record} {position : Position}
    {ahead : List Record} (level : Level connection run ahead)
    (isFix : position.isFix = record.hasPosition)
    (anonymous : record.tellsPlace = true → ∀ later ∈ ahead, later.tellsTerminal = false)
    (objectId : Option Nat) :
    Level connection (run.reportPosition connection objectId record position).2 ahead := by
  simp only [Run.reportPosition, sessionFor, level.mode]
  split
  · rename_i reports
    rw [Bool.and_eq_true, decide_eq_true_eq, isFix] at reports
    have tells : record.tellsPlace = true := by
      rw [Record.tellsPlace, reports.1, reports.2]
      rfl
    cases bound : run.services.registry.sessionOf? connection with
    | none => exact level
    | some session =>
      have device : run.sessions.device? connection = some session.deviceId := by
        rw [Sessions.device?, sessions, bound]
        rfl
      refine ⟨level.mode, ?_, level.ordered, .inr (anonymous tells)⟩
      intro p member
      have split : p ∈ run.positions ++ [{ position with deviceId := session.deviceId }] := member
      rw [List.mem_append, List.mem_singleton] at split
      rcases split with earlier | rfl
      · exact level.device p earlier
      · exact device
  · exact level

theorem Level.takeRecord {run : Run δ μ} {record : Record} {ahead : List Record}
    (level : Level connection run (record :: ahead)) (packetId : Nat) (objectId : Option Nat) :
    Level connection (run.takeRecord connection packetId objectId record).2 ahead := by
  have taken := level.takeSubRecords packetId
  have anonymous (tells : record.tellsPlace = true) (later : Record) (member : later ∈ ahead) :=
    (List.pairwise_cons.1 level.ordered).1 later member tells
  unfold Run.takeRecord
  simp only
  split
  · rename_i error run' failed
    rw [failed] at taken
    exact taken
  · rename_i position run' read
    rw [read] at taken
    exact taken.reportPosition (isFix_of_takeSubRecords read) anonymous objectId

theorem Level.takeRecords {run : Run δ μ} {records ahead : List Record}
    (level : Level connection run (records ++ ahead)) (packetId : Nat) (objectId : Option Nat) :
    Level connection (run.takeRecords connection packetId objectId records).2 ahead := by
  induction records generalizing run objectId with
  | nil => exact level
  | cons record rest ih =>
    rw [Run.takeRecords]
    have first := level.takeRecord packetId (record.objectId.orElse fun _ => objectId)
    generalize run.takeRecord connection packetId _ record = outcome at first ⊢
    obtain ⟨error, run'⟩ := outcome
    cases error with
    | none => exact ih first _
    | some error => exact first.drop

theorem Level.takePacket {run : Run δ μ} {packet : Packet} {ahead : List Record}
    (level : Level connection run (packet.subjects.map (·.2) ++ ahead)) :
    Level connection (run.takePacket connection packet).2 ahead := by
  unfold Run.takePacket
  split
  · exact level.drop
  · rename_i carries
    rw [Packet.subjects, if_neg carries, Record.map_withObjects] at level
    exact level.takeRecords packet.id none

/-- All positions of packets whose records are ordered are of the device that their connection then
has. -/
theorem Level.takePackets {run : Run δ μ} {packets : List Packet}
    (level : Level connection run ((packets.flatMap Packet.subjects).map (·.2))) :
    ∀ p ∈ (run.takePackets connection packets).2.positions,
      (run.takePackets connection packets).2.sessions.device? connection = some p.deviceId := by
  induction packets generalizing run with
  | nil => exact level.device
  | cons packet rest ih =>
    rw [List.flatMap_cons, List.map_append] at level
    have first := level.takePacket
    rw [Run.takePackets]
    generalize run.takePacket connection packet = outcome at first ⊢
    obtain ⟨error, run'⟩ := outcome
    cases error with
    | none => exact ih first
    | some error => exact first.device

end Decoder.Run

/-- All positions of a unit with ordered records are of the device that it leaves its connection
with. -/
theorem Decoder.deviceId_of_decode {δ μ : Type} [Directory δ] {decoder : Decoder}
    {services services' : Services δ μ} {connection : ConnectionId} {unit : Bytes}
    {decoder' : Decoder} {positions : List Position} (mode : decoder.mode = .byConnection)
    (ordered : Record.Ordered (records unit))
    (decoded : decoder.decode services connection unit = (.ok positions, decoder', services')) :
    ∀ p ∈ positions, services'.sessions.device? connection = some p.deviceId := by
  let run : Run δ μ := ⟨decoder, services, []⟩
  have level : Run.Level connection run (records unit) := ⟨mode, by rintro p ⟨⟩, ordered, .inl rfl⟩
  have all := Run.Level.takePackets level
  simp only [decode, run] at decoded all
  generalize Run.takePackets ⟨decoder, services, []⟩ connection (Packet.readAll unit).1 = outcome
    at decoded all
  obtain ⟨error, run'⟩ := outcome
  simp only [Prod.mk.injEq] at decoded
  obtain ⟨told, -, rfl⟩ := decoded
  split at told
  · cases told
  · cases told
    exact all

end TrackerGateway.Egts
