import TrackerGateway.Proofs.Egts.Concatenation
import TrackerGateway.Proofs.Egts.Truncation
import TrackerGateway.Proofs.Session.Failure

/-!
# What ends a unit

A packet that cannot be read is fatal. Inside a packet octets may be missing and the directory may
fail, but neither is fatal, so it costs a record, or the rest of its packet. What is left is a
terminal that says who it is to a decoder that goes by object ids: over a directory that says no
more of its failures than that it failed, only that ends the packets of a unit
(`Run.Plain.misconfigured_of_takePackets`).
-/

namespace TrackerGateway.Egts

namespace Packet

theorem isFatal_of_next {octets : Bytes} {fault : ProtocolFault}
    (least : leastHeader ≤ octets.length) (failed : next octets = .error fault) :
    (Error.protocol fault).isFatal = true := by
  rw [next, Header.peek_of_le least] at failed
  unfold Header.fitting at failed
  simp only at failed
  split at failed
  · cases failed
    rfl
  · cases failed

/-- What is wrong with the octets that no packet could be read from is fatal. -/
theorem isFatal_of_readAll {octets : Bytes} {fault : ProtocolFault}
    (h : (readAll octets).2 = some fault) : (Error.protocol fault).isFatal = true := by
  induction octets using readAll.induct with
  | case1 octets least packet rest found _ _ _ _ ih =>
    rw [readAll, if_pos least] at h
    split at h
    · rename_i packet' rest' found'
      rw [found] at found'
      cases found'
      exact ih h
    · rename_i cause failed
      rw [found] at failed
      cases failed
  | case2 octets least cause failed =>
    rw [readAll, if_pos least] at h
    split at h
    · rename_i packet' rest' found'
      rw [failed] at found'
      cases found'
    · rename_i cause' failed'
      cases h
      exact isFatal_of_next ((Bytes.hasAtLeast_iff ..).1 least) failed'
  | case3 octets few =>
    rw [readAll, if_neg few] at h
    cases h

end Packet

namespace Decoder

/-- Whether an error ends a unit only because a terminal said who it is to a decoder that goes by
object ids. -/
def Excused (mode : SessionMode) (error : Error) : Prop :=
  error.isFatal = true →
    mode = .byIdentifier ∧ ∃ reason, error = .protocol (.misconfigured reason)

theorem excused_of_calm {mode : SessionMode} {error : Error} (calm : error.isFatal = false) :
    Excused mode error := by
  intro fatal
  rw [calm] at fatal
  cases fatal

variable {δ μ : Type}

namespace Run

variable [Directory δ]

/-- A run of a decoder of this mode over a directory that fails plainly if it fails. -/
structure Plain (mode : SessionMode) (run : Run δ μ) : Prop where
  mode : run.decoder.mode = mode
  directory : Directory.Plain run.services.directory

theorem lasting_plain (connection : ConnectionId) (mode : SessionMode) :
    Lasting connection fun run : Run δ μ => run.Plain mode where
  resolve _ uniqueId h :=
    ⟨h.mode, Registry.plain_resolve h.directory _ connection uniqueId⟩
  confirm _ _ h := ⟨h.mode, h.directory⟩

variable {mode : SessionMode} {run : Run δ μ} {error : Error}

theorem Plain.isFatal_of_resolve (plain : run.Plain mode) {connection : ConnectionId}
    {uniqueId : String} (failed : (run.resolve connection uniqueId).1 = .error error) :
    error.isFatal = false :=
  plain.directory.isFatal_eq_false (Registry.lookup_of_resolve_error failed)

theorem Plain.isFatal_of_resolveAll (plain : run.Plain mode) {connection : ConnectionId}
    {uniqueIds : List String} (failed : (run.resolveAll connection uniqueIds).1 = some error) :
    error.isFatal = false := by
  induction uniqueIds generalizing run with
  | nil => cases failed
  | cons uniqueId uniqueIds ih =>
    rw [resolveAll] at failed
    have calm (cause : Error) (h : (run.resolve connection uniqueId).1 = .error cause) :
        cause.isFatal = false := plain.isFatal_of_resolve h
    have plain' := (lasting_plain connection mode).resolve run uniqueId plain
    generalize run.resolve connection uniqueId = outcome at failed calm plain'
    obtain ⟨result, next⟩ := outcome
    cases result with
    | ok found => exact ih plain' failed
    | error cause =>
      cases failed
      exact calm error rfl

theorem Plain.excused_of_identify (plain : run.Plain mode) {connection : ConnectionId}
    {service : Nat} {data : Bytes}
    (failed : (run.identify connection service data).1 = some error) : Excused mode error := by
  unfold identify at failed
  rw [plain.mode] at failed
  split at failed
  · rename_i byIdentifier
    cases failed
    exact fun _ => ⟨byIdentifier, _, rfl⟩
  · split at failed
    · rename_i fault read
      cases failed
      exact excused_of_calm ((Terminal.truncates_identifiers data).isFatal_eq_false read)
    · rename_i identifiers read
      have calm (cause : Error) (h : (run.resolveAll connection identifiers).1 = some cause) :
          cause.isFatal = false := plain.isFatal_of_resolveAll h
      generalize run.resolveAll connection identifiers = outcome at failed calm
      obtain ⟨cause, next⟩ := outcome
      cases cause with
      | none => cases failed
      | some cause =>
        cases failed
        exact excused_of_calm (calm error rfl)

theorem Plain.excused_of_takeSubRecords (plain : run.Plain mode) {connection : ConnectionId}
    {service : Nat} {fault : Option ProtocolFault} {subs : List SubRecord} {position : Position}
    (cut : ∀ cause, fault = some cause → (Error.protocol cause).isFatal = false)
    (failed : (run.takeSubRecords connection service fault subs position).1 = .error error) :
    Excused mode error := by
  induction subs generalizing run position with
  | nil =>
    cases fault with
    | none => cases failed
    | some cause =>
      cases failed
      exact excused_of_calm (cut cause rfl)
  | cons sub subs ih =>
    rw [takeSubRecords] at failed
    split at failed
    · have excused (cause : Error)
          (h : (run.identify connection service sub.data).1 = some cause) : Excused mode cause :=
        plain.excused_of_identify h
      have plain' := keeps_identify (lasting_plain connection mode) plain service sub.data
      generalize run.identify connection service sub.data = outcome at failed excused plain'
      obtain ⟨cause, next⟩ := outcome
      cases cause with
      | none => exact ih plain' failed
      | some cause =>
        cases failed
        exact excused error rfl
    · split at failed
      · rename_i fault' applied
        cases failed
        exact excused_of_calm ((Telemetry.truncates_apply sub position).isFatal_eq_false applied)
      · exact ih plain failed

/-- A position is not reported for want of its session only if the directory failed for its
object. -/
theorem lookup_of_reportPosition {connection : ConnectionId} {objectId : Option Nat}
    {record : Record} {position : Position}
    (failed : (run.reportPosition connection objectId record position).1 = some error) :
    ∃ id, objectId = some id ∧ id ≠ 0 ∧
      (Directory.lookup run.services.directory (toString id)).1 = .failed error := by
  have named (cause : Error) (missing : (run.sessionFor connection objectId).1 = .error cause) :
      ∃ id, objectId = some id ∧ id ≠ 0 ∧
        (Directory.lookup run.services.directory (toString id)).1 = .failed cause := by
    unfold sessionFor at missing
    split at missing
    · cases missing
    · split at missing
      · rename_i id known
        obtain ⟨object, nonzero⟩ := Option.filter_eq_some_iff.1 known
        exact ⟨id, object, by simpa using nonzero, Registry.lookup_of_resolve_error missing⟩
      · cases missing
  unfold reportPosition at failed
  split at failed
  · generalize run.sessionFor connection objectId = outcome at failed named
    match outcome with
    | (.error cause, next) =>
      cases failed
      exact named error rfl
    | (.ok none, next) => cases failed
    | (.ok (some session), next) => cases failed
  · cases failed

theorem Plain.isFatal_of_reportPosition (plain : run.Plain mode) {connection : ConnectionId}
    {objectId : Option Nat} {record : Record} {position : Position}
    (failed : (run.reportPosition connection objectId record position).1 = some error) :
    error.isFatal = false := by
  obtain ⟨id, -, -, missing⟩ := lookup_of_reportPosition failed
  exact plain.directory.isFatal_eq_false missing

theorem Plain.excused_of_takeRecord (plain : run.Plain mode) {connection : ConnectionId}
    {packetId : Nat} {objectId : Option Nat} {record : Record}
    (failed : (run.takeRecord connection packetId objectId record).1 = some error) :
    Excused mode error := by
  have acknowledged : (run.acknowledge packetId record).Plain mode := ⟨plain.mode, plain.directory⟩
  have excused (cause : Error) (h : ((run.acknowledge packetId record).takeSubRecords connection
      record.service record.subRecords.2 record.subRecords.1 (.blank protocolName)).1 =
        .error cause) : Excused mode cause :=
    acknowledged.excused_of_takeSubRecords (fun _ cut => SubRecord.isFatal_of_readAll cut) h
  have plain' := keeps_takeSubRecords (lasting_plain connection mode) acknowledged record.service
    record.subRecords.2 record.subRecords.1 (.blank protocolName)
  unfold takeRecord at failed
  simp only at failed
  generalize (run.acknowledge packetId record).takeSubRecords connection record.service
    record.subRecords.2 record.subRecords.1 (.blank protocolName) = outcome at failed excused plain'
  obtain ⟨result, next⟩ := outcome
  cases result with
  | ok position => exact excused_of_calm (plain'.isFatal_of_reportPosition failed)
  | error cause =>
    simp only at failed
    split at failed
    · cases failed
      exact excused error rfl
    · cases failed

theorem Plain.keeps_takeRecord (plain : run.Plain mode) (connection : ConnectionId) (packetId : Nat)
    (objectId : Option Nat) (record : Record) :
    (run.takeRecord connection packetId objectId record).2.Plain mode :=
  Run.keeps_takeRecord (lasting_plain connection mode) plain
    (fun _ _ _ h => ⟨h.mode, h.directory⟩) (fun _ _ _ h => ⟨h.mode, h.directory⟩) packetId objectId
    record

theorem Plain.excused_of_takeRecords (plain : run.Plain mode) {connection : ConnectionId}
    {packetId : Nat} {objectId : Option Nat} {records : List Record}
    (failed : (run.takeRecords connection packetId objectId records).1 = some error) :
    Excused mode error := by
  induction records generalizing run objectId with
  | nil => cases failed
  | cons record rest ih =>
    rw [takeRecords] at failed
    have excused (cause : Error) (h : (run.takeRecord connection packetId
        (record.objectId.orElse fun _ => objectId) record).1 = some cause) : Excused mode cause :=
      plain.excused_of_takeRecord h
    have plain' := plain.keeps_takeRecord connection packetId
      (record.objectId.orElse fun _ => objectId) record
    generalize run.takeRecord connection packetId _ record = outcome at failed excused plain'
    obtain ⟨cause, next⟩ := outcome
    cases cause with
    | none => exact ih plain' failed
    | some cause =>
      cases failed
      exact excused error rfl

theorem Plain.excused_of_takePacket (plain : run.Plain mode) {connection : ConnectionId}
    {packet : Packet} (failed : (run.takePacket connection packet).1 = some error) :
    Excused mode error := by
  unfold takePacket at failed
  split at failed
  · cases failed
  · exact plain.excused_of_takeRecords (Option.filter_eq_some_iff.1 failed).1

theorem Plain.keeps_takePacket (plain : run.Plain mode) (connection : ConnectionId)
    (packet : Packet) : (run.takePacket connection packet).2.Plain mode :=
  (matches_takePacket (lasting_plain connection mode).simulation ⟨rfl, plain⟩
    (emitted_beside fun _ _ _ h => ⟨h.mode, h.directory⟩)
    (acknowledged_beside fun _ _ _ h => ⟨h.mode, h.directory⟩) packet).run.2

theorem Plain.excused_of_takePackets (plain : run.Plain mode) {connection : ConnectionId}
    {packets : List Packet} (failed : (run.takePackets connection packets).1 = some error) :
    Excused mode error := by
  induction packets generalizing run with
  | nil => cases failed
  | cons packet rest ih =>
    rw [takePackets] at failed
    have excused (cause : Error) (h : (run.takePacket connection packet).1 = some cause) :
        Excused mode cause := plain.excused_of_takePacket h
    have plain' := plain.keeps_takePacket connection packet
    generalize run.takePacket connection packet = outcome at failed excused plain'
    obtain ⟨cause, next⟩ := outcome
    cases cause with
    | none => exact ih plain' failed
    | some cause =>
      cases failed
      exact excused error rfl

theorem isFatal_of_takePackets {run : Run δ μ} {connection : ConnectionId} {packets : List Packet}
    {error : Error} (failed : (run.takePackets connection packets).1 = some error) :
    error.isFatal = true := by
  induction packets generalizing run with
  | nil => cases failed
  | cons packet rest ih =>
    rw [takePackets] at failed
    have fatal (cause : Error) (h : (run.takePacket connection packet).1 = some cause) :
        cause.isFatal = true := by
      unfold takePacket at h
      split at h
      · cases h
      · exact (Option.filter_eq_some_iff.1 h).2
    generalize run.takePacket connection packet = outcome at failed fatal
    obtain ⟨cause, next⟩ := outcome
    cases cause with
    | none => exact ih failed
    | some cause =>
      cases failed
      exact fatal error rfl

theorem Plain.misconfigured_of_takePackets (plain : run.Plain mode) {connection : ConnectionId}
    {packets : List Packet} (failed : (run.takePackets connection packets).1 = some error) :
    mode = .byIdentifier ∧ ∃ reason, error = .protocol (.misconfigured reason) :=
  plain.excused_of_takePackets failed (isFatal_of_takePackets failed)

end Run
end Decoder
end TrackerGateway.Egts
