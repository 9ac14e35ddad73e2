import TrackerGateway.Proofs.Egts.Boundaries
import TrackerGateway.Proofs.Egts.Reading
import TrackerGateway.Proofs.Egts.Replies

/-!
# Packets that are put together and taken apart

A packet is put together from the inside: sub-records to the data of a record, records to frame
data. At each level a length of two octets says where the next thing begins. If the frame data are
no longer than such a length can say, nothing within them is, and each level reads back what it
was made of (`Draft.readBack_packet`), which is what a decoder then takes (`decode_packet`).
-/

namespace TrackerGateway.Egts

/-- A record to be written, without optional fields: its number, its service, and the type and the
data of each sub-record. -/
structure Draft where
  number : UInt16
  service : UInt8
  contents : List (UInt8 × Bytes)
  deriving DecidableEq, Repr

namespace Draft

/-- The sub-records, one after the other. -/
def body (draft : Draft) : Bytes :=
  draft.contents.flatMap fun content => SubRecord.build content.1.toNat content.2

def octets (draft : Draft) : Bytes := Record.build draft.number.toNat draft.service.toNat draft.body

/-- The frame data of a packet with these records. -/
def frame (drafts : List Draft) : Bytes := drafts.flatMap octets

def packet (id : UInt16) (type : UInt8) (drafts : List Draft) : Bytes :=
  Packet.build id.toNat type.toNat (frame drafts)

/-- The record that should be read. -/
def record (draft : Draft) : Record where
  number := draft.number.toNat
  objectId := none
  eventId := none
  time := none
  service := draft.service.toNat
  data := draft.body

/-- The sub-records that should be read. -/
def subRecords (draft : Draft) : List SubRecord :=
  draft.contents.map fun content => ⟨content.1.toNat, content.2⟩

/-! ### Lengths -/

theorem length_le_flatMap {α : Type} {f : α → Bytes} {a : α} {list : List α} (here : a ∈ list) :
    (f a).length ≤ (list.flatMap f).length := by
  rw [List.flatMap_def]
  exact (List.sublist_flatten_of_mem (List.mem_map_of_mem here)).length_le

theorem length_data_le {draft : Draft} {content : UInt8 × Bytes} (here : content ∈ draft.contents) :
    content.2.length ≤ draft.body.length := by
  have written : (SubRecord.build content.1.toNat content.2).length ≤ draft.body.length :=
    length_le_flatMap
      (f := fun content : UInt8 × Bytes => SubRecord.build content.1.toNat content.2) here
  rw [SubRecord.length_build] at written
  exact (Nat.le_add_left ..).trans written

theorem length_body_le {draft : Draft} {drafts : List Draft} (here : draft ∈ drafts) :
    draft.body.length ≤ (frame drafts).length := by
  have written : draft.octets.length ≤ (frame drafts).length := length_le_flatMap here
  rw [octets, Record.length_build] at written
  exact (Nat.le_add_left ..).trans written

/-! ### Reading back -/

theorem subRecords_record {draft : Draft} (small : draft.body.length ≤ 65535) :
    draft.record.subRecords = (draft.subRecords, none) := by
  refine SubRecord.exhausts_next.readAll_flatMap
    (fun content here => ⟨SubRecord.build_ne_nil _ _, ?_⟩) []
  exact SubRecord.reads_build content.1.toNat_lt
    (Nat.lt_succ_of_le ((length_data_le here).trans small))

theorem records_frame (packetId packetType : Nat) {drafts : List Draft}
    (small : (frame drafts).length ≤ 65535) :
    (Packet.mk packetId packetType (frame drafts)).records = (drafts.map record, none) := by
  refine Record.exhausts_next.readAll_flatMap (fun draft here => ⟨Record.build_ne_nil _ _ _, ?_⟩) []
  exact Record.reads_build draft.number.toNat_lt draft.service.toNat_lt
    (Nat.lt_succ_of_le ((length_body_le here).trans small))

/-- Whether octets are told from what follows them as one packet with right checks, and read at
each level as just what went in: the packet, its records, and the sub-records of each. -/
structure ReadBack (id : UInt16) (type : UInt8) (drafts : List Draft) (octets : Bytes) : Prop where
  alone : ∀ more, Packet.framing.step (octets ++ more) = .unit octets more
  headerMatches : Packet.headerMatches (octets.take Packet.leastHeader) = true
  headerChecked : Packet.HeaderChecked (octets.take Packet.leastHeader)
  checked : frame drafts ≠ [] → Packet.Checked (frame drafts) (octets.drop Packet.leastHeader)
  bare : frame drafts = [] → octets.drop Packet.leastHeader = []
  packets : Packet.readAll octets = ([⟨id.toNat, type.toNat, frame drafts⟩], none)
  records : (Packet.mk id.toNat type.toNat (frame drafts)).records = (drafts.map record, none)
  subRecords : ∀ draft ∈ drafts, draft.record.subRecords = (draft.subRecords, none)

theorem readBack_packet (id : UInt16) (type : UInt8) {drafts : List Draft}
    (small : (frame drafts).length ≤ 65535) : ReadBack id type drafts (packet id type drafts) := by
  have short : (frame drafts).length < 65536 := Nat.lt_succ_of_le small
  have whole := Packet.whole_build id.toNat type.toNat short
  have number : id.toNat % 65536 = id.toNat := Nat.mod_eq_of_lt id.toNat_lt
  have kind : type.toNat % 256 = type.toNat := Nat.mod_eq_of_lt type.toNat_lt
  refine ⟨whole.step_append, ?_, ?_, fun full => ?_, fun none => ?_, ?_,
    records_frame _ _ small, ?_⟩
  · rw [packet, Packet.take_build]
    exact Packet.headerMatches_headerOf ..
  · rw [packet, Packet.take_build]
    exact Packet.headerChecked_headerOf ..
  · rw [packet, Packet.drop_build]
    exact Packet.checked_contents full
  · rw [packet, Packet.drop_build, Packet.contents, if_pos none]
  · rw [packet, whole.readAll_eq, Packet.ofWhole_build _ _ short, number, kind]
  · intro draft here
    exact subRecords_record ((length_body_le here).trans small)

end Draft

namespace Decoder

variable {δ μ : Type} [Directory δ]

theorem takePackets_singleton (run : Run δ μ) (connection : ConnectionId) (packet : Packet) :
    run.takePackets connection [packet] = run.takePacket connection packet := by
  rw [Run.takePackets]
  rcases run.takePacket connection packet with ⟨_ | error, after⟩
  · rfl
  · rfl

/-- A packet that was put together from records is read back as these records with these
sub-records, and taken by any decoder as such. -/
theorem decode_packet (id : UInt16) (type : UInt8) (drafts : List Draft)
    (other : type.toNat ≠ Packet.typeResponse) (small : (Draft.frame drafts).length ≤ 65535)
    (decoder : Decoder) (services : Services δ μ) (connection : ConnectionId) :
    let outcome :=
  Run.takeRecords ⟨decoder, services, []⟩ connection id.toNat none (drafts.map Draft.record)
    Draft.ReadBack id type drafts (Draft.packet id type drafts) ∧
      decoder.decode services connection (Draft.packet id type drafts) =
        Run.finish (outcome.1.filter Error.isFatal, outcome.2) := by
  intro outcome
  have read := Draft.readBack_packet id type small
  refine ⟨read, ?_⟩
  rw [decode_of_readAll read.packets, takePackets_singleton, Run.takePacket, if_neg other,
    read.records]

/-- A record with a terminal's identity and data of an unknown type, and a record without
sub-records. -/
def sampleDrafts : List Draft := [⟨5, 1, [(1, [0, 0, 0, 0, 0]), (200, [1, 2, 3])]⟩, ⟨65535, 2, []⟩]

theorem decode_packet_of_sampleDrafts :
    let octets := Draft.packet 513 1 sampleDrafts
    (1 : UInt8).toNat ≠ Packet.typeResponse ∧ (Draft.frame sampleDrafts).length = 28 ∧
    octets.length = 41 ∧
      octets[10]? = some 0xE7 ∧ octets.drop 39 = [0x55, 0x97] ∧
      Draft.ReadBack 513 1 sampleDrafts octets ∧
        (start .byConnection).decode sampleServices ⟨1⟩ octets =
          (let outcome := Run.takeRecords ⟨start .byConnection, sampleServices, []⟩ ⟨1⟩ 513 none
            (sampleDrafts.map Draft.record)
          Run.finish (outcome.1.filter Error.isFatal, outcome.2)) := by
  intro octets
  have other : (1 : UInt8).toNat ≠ Packet.typeResponse := by decide
  have length : (Draft.frame sampleDrafts).length = 28 := by decide
  have written : octets.length = 41 := by decide +kernel
  exact ⟨other, length, written, by decide +kernel, by decide +kernel,
    decode_packet 513 1 sampleDrafts other (by omega) (start .byConnection) sampleServices ⟨1⟩⟩

end Decoder
end TrackerGateway.Egts
