import TrackerGateway.Proofs.Egts.Decoding
import TrackerGateway.Proofs.Egts.Fatality

/-!
# Acknowledged records and their positions

A record is acknowledged before it is taken, its position is handed over only when the whole unit
was taken. `Run.visits` are the records that a unit comes to, each with the run as it stood then.
They are the records that were acknowledged, and the run collects the positions of all of them
(`Run.gathers_takePackets`). So a unit that does not fail loses none
(`positions_of_acknowledged`); one that fails hands over no position, whatever it acknowledged.
-/

namespace TrackerGateway.Egts

namespace Packet

/-- Whether octets are a packet that acknowledges another. -/
def isResponse (octets : Bytes) : Bool := octets[9]? = some 0

end Packet

namespace Decoder

variable {δ μ : Type}

/-- A record that a unit comes to, and the run as it stood then. -/
structure Visit (δ μ : Type) where
  run : Run δ μ
  packetId : Nat
  /-- The object that the record is about. -/
  objectId : Option Nat
  record : Record

namespace Visit

/-- The packet that acknowledges the record. -/
def acknowledgment (visit : Visit δ μ) : Bytes :=
  Packet.build visit.run.decoder.packetId Packet.typeResponse
    (replyFrame (some visit.packetId) visit.record.service SubRecord.recordResponse
      (Bytes.ofLe 2 visit.record.number ++ [0]))

/-- The position that the record tells: it is telemetry, all of it can be taken, it has a fix, and
there is a session for it. -/
def told? [Directory δ] (connection : ConnectionId) (visit : Visit δ μ) : Option Position :=
  let run := visit.run.acknowledge visit.packetId visit.record
  let (subs, fault) := visit.record.subRecords
  match run.takeSubRecords connection visit.record.service fault subs (.blank protocolName) with
  | (.error _, _) => none
  | (.ok position, run) =>
    if visit.record.service = Record.teledataService && position.isFix then
      match (run.sessionFor connection visit.objectId).1 with
      | .ok (some session) => some { position with deviceId := session.deviceId }
      | _ => none
    else none

end Visit

namespace Run

section

variable [Directory δ]

/-- The records of a packet that are come to: all up to one with a fatal error, or whose device
cannot be looked up. -/
def visitsOfRecords (run : Run δ μ) (connection : ConnectionId) (packetId : Nat)
    (objectId : Option Nat) : List Record → List (Visit δ μ)
  | [] => []
  | record :: rest =>
    let objectId := record.objectId.orElse fun _ => objectId
    ⟨run, packetId, objectId, record⟩ ::
      match run.takeRecord connection packetId objectId record with
      | (some _, _) => []
      | (none, run) => run.visitsOfRecords connection packetId objectId rest

def visitsOfPacket (run : Run δ μ) (connection : ConnectionId) (packet : Packet) :
    List (Visit δ μ) :=
  if packet.packetType = Packet.typeResponse then []
  else run.visitsOfRecords connection packet.id none packet.records.1

/-- The records of packets that are come to. -/
def visits (run : Run δ μ) (connection : ConnectionId) : List Packet → List (Visit δ μ)
  | [] => []
  | packet :: rest =>
    run.visitsOfPacket connection packet ++
      match run.takePacket connection packet with
      | (some _, _) => []
      | (none, run) => run.visits connection rest

end

/-- What was acknowledged and what was found between two states of a run. -/
structure Gathers (run : Run δ μ) (acknowledgments : List Bytes) (found : List Position)
    (run' : Run δ μ) : Prop where
  replies : ∃ sent, run'.services.replies = run.services.replies ++ sent ∧
    sent.filter Packet.isResponse = acknowledgments
  positions : run'.positions = run.positions ++ found

theorem Gathers.refl (run : Run δ μ) : run.Gathers [] [] run where
  replies := ⟨[], (List.append_nil _).symm, rfl⟩
  positions := (List.append_nil _).symm

theorem Gathers.trans {run run' run'' : Run δ μ} {acknowledgments more : List Bytes}
    {found others : List Position} (first : run.Gathers acknowledgments found run')
    (second : run'.Gathers more others run'') :
    run.Gathers (acknowledgments ++ more) (found ++ others) run'' := by
  obtain ⟨sent, replies, acknowledged⟩ := first.replies
  obtain ⟨sent', replies', acknowledged'⟩ := second.replies
  refine ⟨⟨sent ++ sent', ?_, ?_⟩, ?_⟩
  · rw [replies', replies, List.append_assoc]
  · rw [List.filter_append, acknowledged, acknowledged']
  · rw [second.positions, first.positions, List.append_assoc]

theorem gathers_acknowledge (run : Run δ μ) (packetId : Nat) (objectId : Option Nat)
    (record : Record) :
    run.Gathers [(Visit.mk run packetId objectId record).acknowledgment] []
      (run.acknowledge packetId record) where
  replies := ⟨[_], rfl, rfl⟩
  positions := (List.append_nil _).symm

/-- Naming identifiers and answering terminals acknowledges no record and finds no position. -/
theorem lasting_gathers [Directory δ] (connection : ConnectionId) (start : Run δ μ)
    (acknowledgments : List Bytes) (found : List Position) :
    Lasting connection fun run => start.Gathers acknowledgments found run where
  resolve _ _ h := ⟨h.replies, h.positions⟩
  confirm run service h := by
    obtain ⟨sent, replies, acknowledged⟩ := h.replies
    let answer := Packet.build run.decoder.packetId Packet.typeAppData
      (replyFrame none service SubRecord.resultCode [0])
    have noResponse : [answer].filter Packet.isResponse = [] := rfl
    refine ⟨⟨sent ++ [answer], ?_, ?_⟩, h.positions⟩
    · rw [← List.append_assoc, ← replies]
      rfl
    · rw [List.filter_append, noResponse, List.append_nil, acknowledged]

variable [Directory δ]

/-- A record is acknowledged, and the position that it tells is found. -/
theorem gathers_takeRecord (run : Run δ μ) (connection : ConnectionId) (packetId : Nat)
    (objectId : Option Nat) (record : Record) :
    let visit := Visit.mk run packetId objectId record
    run.Gathers [visit.acknowledgment] (visit.told? connection).toList
      (run.takeRecord connection packetId objectId record).2 := by
  intro visit
  have lasting := lasting_gathers connection run [visit.acknowledgment] []
  have taken := keeps_takeSubRecords lasting (run.gathers_acknowledge packetId objectId record)
    record.service record.subRecords.2 record.subRecords.1 (.blank protocolName)
  unfold takeRecord Visit.told?
  simp only [visit]
  generalize (run.acknowledge packetId record).takeSubRecords connection record.service
    record.subRecords.2 record.subRecords.1 (.blank protocolName) = outcome at taken ⊢
  obtain ⟨result, next⟩ := outcome
  cases result with
  | error error => exact taken
  | ok position =>
    simp only [reportPosition]
    split
    · have looked := keeps_sessionFor lasting taken objectId
      generalize next.sessionFor connection objectId = outcome at looked ⊢
      obtain ⟨result, last⟩ := outcome
      match result with
      | .error _ => exact looked
      | .ok none => exact looked
      | .ok (some session) =>
        have before : last.positions = run.positions :=
          looked.positions.trans (List.append_nil _)
        refine ⟨looked.replies, ?_⟩
        simp only [emit, before]
        rfl
    · exact taken

theorem gathers_takeRecords (run : Run δ μ) (connection : ConnectionId) (packetId : Nat)
    (objectId : Option Nat) (records : List Record) :
    let visits := run.visitsOfRecords connection packetId objectId records
    run.Gathers (visits.map Visit.acknowledgment) (visits.filterMap (Visit.told? connection))
      (run.takeRecords connection packetId objectId records).2 := by
  induction records generalizing run objectId with
  | nil => exact .refl run
  | cons record rest ih =>
    rw [visitsOfRecords, takeRecords]
    have first := run.gathers_takeRecord connection packetId
      (record.objectId.orElse fun _ => objectId) record
    simp only [List.map_cons, filterMap_cons_toList]
    generalize run.takeRecord connection packetId _ record = outcome at first ⊢
    obtain ⟨error, next⟩ := outcome
    cases error with
    | none => exact first.trans (ih next _)
    | some error => exact first.trans (.refl next)

theorem gathers_takePacket (run : Run δ μ) (connection : ConnectionId) (packet : Packet) :
    let visits := run.visitsOfPacket connection packet
    run.Gathers (visits.map Visit.acknowledgment) (visits.filterMap (Visit.told? connection))
      (run.takePacket connection packet).2 := by
  unfold visitsOfPacket takePacket
  split
  · exact .refl run
  · exact run.gathers_takeRecords connection packet.id none packet.records.1

/-- Of all records that packets come to, whether or not the last of them has a fatal error, the
acknowledgments are sent and the positions found. -/
theorem gathers_takePackets (run : Run δ μ) (connection : ConnectionId) (packets : List Packet) :
    let visits := run.visits connection packets
    run.Gathers (visits.map Visit.acknowledgment) (visits.filterMap (Visit.told? connection))
      (run.takePackets connection packets).2 := by
  induction packets generalizing run with
  | nil => exact .refl run
  | cons packet rest ih =>
    have first := run.gathers_takePacket connection packet
    simp only [visits, takePackets, List.map_append, List.filterMap_append]
    generalize run.takePacket connection packet = outcome at first ⊢
    obtain ⟨error, next⟩ := outcome
    cases error with
    | none => exact first.trans (ih next)
    | some error => exact first.trans (.refl next)

end Run

variable [Directory δ]

/-- Whatever the decoder, its sessions and the unit, and whatever the directory answers: the unit
acknowledges just the records that it comes to, in order. If it does not fail, it hands over the
positions that they tell, all of them and in order; and it fails only with a fatal error. -/
theorem positions_of_acknowledged (decoder : Decoder) (services : Services δ μ)
    (connection : ConnectionId) (bytes : Bytes) :
    let visits := Run.visits ⟨decoder, services, []⟩ connection (Packet.readAll bytes).1
    let outcome := decoder.decode services connection bytes
    (∃ sent, outcome.2.2.replies = services.replies ++ sent ∧
        sent.filter Packet.isResponse = visits.map Visit.acknowledgment) ∧
      match outcome.1 with
      | .ok positions => positions = visits.filterMap (Visit.told? connection)
      | .error error => error.isFatal = true := by
  intro visits outcome
  let run : Run δ μ := ⟨decoder, services, []⟩
  have gathered := run.gathers_takePackets connection (Packet.readAll bytes).1
  have fatal (error : Error)
      (failed : (run.takePackets connection (Packet.readAll bytes).1).1 = some error) :
      error.isFatal = true := Run.isFatal_of_takePackets failed
  simp only [outcome, decode]
  generalize run.takePackets connection (Packet.readAll bytes).1 = taken at gathered fatal ⊢
  obtain ⟨error, after⟩ := taken
  refine ⟨gathered.replies, ?_⟩
  cases error with
  | some error => exact fatal error rfl
  | none =>
    cases fault : (Packet.readAll bytes).2 with
    | some fault => exact Packet.isFatal_of_readAll fault
    | none => exact gathered.positions

/-- A record about an object, with its place, and one in which a terminal says who it is. -/
def sampleContradiction : Bytes :=
  Packet.build 1 Packet.typeAppData
    ([24, 0, 1, 0, 1, 184, 11, 0, 0, 2, 2] ++ samplePlace ++
      Record.build 2 Record.teledataService sampleIdentity)

/-- A decoder that keeps sessions by identifier drops a unit in which a terminal says who it is, and
with it the positions of the records that it has acknowledged by then. -/
theorem not_delivered_of_contradiction :
    ¬ ∀ (decoder : Decoder) (services : Services (String → Lookup) Unit) (connection : ConnectionId)
        (bytes : Bytes), ∀ visit ∈ Run.visits ⟨decoder, services, []⟩ connection
          (Packet.readAll bytes).1,
        ∀ position, visit.told? connection = some position →
          ∃ positions, (decoder.decode services connection bytes).1 = .ok positions ∧
            position ∈ positions := by
  intro claim
  let packet := Packet.ofWhole sampleContradiction
  let place : Record := ⟨1, some 3000, none, none, Record.teledataService, samplePlace⟩
  let identity : Record := ⟨2, none, none, none, Record.teledataService, sampleIdentity⟩
  have read : (Packet.readAll sampleContradiction).1 = [packet] := by decide +kernel
  have records : packet.records.1 = [place, identity] := by decide +kernel
  have carries : packet.packetType ≠ Packet.typeResponse := by decide +kernel
  let visit : Visit (String → Lookup) Unit :=
    ⟨⟨start .byIdentifier, sampleServices, []⟩, packet.id, some 3000, place⟩
  have visited : visit ∈ Run.visits ⟨start .byIdentifier, sampleServices, []⟩ ⟨1⟩
      (Packet.readAll sampleContradiction).1 := by
    rw [read, Run.visits, Run.visitsOfPacket, if_neg carries, records]
    exact List.mem_append_left _ List.mem_cons_self
  have told : (visit.told? ⟨1⟩).isSome = true := by decide +kernel
  obtain ⟨position, told⟩ := Option.isSome_iff_exists.1 told
  obtain ⟨positions, delivered, -⟩ := claim _ _ _ _ visit visited position told
  have dropped : ((start .byIdentifier).decode sampleServices ⟨1⟩ sampleContradiction).1.isOk =
      false := by
    decide +kernel
  rw [delivered] at dropped
  cases dropped

end Decoder
end TrackerGateway.Egts
