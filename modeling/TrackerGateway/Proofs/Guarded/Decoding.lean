import TrackerGateway.Proofs.Egts.Reading
import TrackerGateway.Proofs.Egts.Truncation
import TrackerGateway.Proofs.Guarded.Packets
import TrackerGateway.Proofs.Guarded.Records
import TrackerGateway.Proofs.Guarded.Series
import TrackerGateway.Egts.Decoder

/-!
# Decoding packets by cursor

Packets, records and sub-records are read and taken in turn, each from the cursor of what it is
part of, and nothing of a unit is read twice. No turn traps, and a unit comes to what
`Decoder.decode` makes of it (`Checked.decode_eq`), whatever its octets are.
-/

namespace TrackerGateway.Egts

/-! ### What is there -/

namespace SubRecord

/-- The data of a sub-record are no longer than two octets can say. -/
theorem finds_next : Reader.Finds next (·.data.length < 65536) := by
  refine .skip fun kind => ?_
  refine (Reader.Finds.le 2).bind fun length short => ?_
  refine (Reader.Finds.take length).bind fun data exact => ?_
  rintro r sub after ⟨⟩
  exact exact.trans_lt short

end SubRecord

namespace Record

variable {r : Reader} {fault : ProtocolFault}

/-- The data of a record are no longer than two octets can say. -/
theorem finds_next : Reader.Finds next (·.data.length < 65536) := by
  refine (Reader.Finds.le 2).bind fun length short => ?_
  refine .skip fun number => ?_
  refine .skip fun flags => ?_
  refine .skip fun found => ?_
  refine .skip fun service => ?_
  refine .skip fun recipient => ?_
  refine (Reader.Finds.take length).bind fun data exact => ?_
  rintro r record after ⟨⟩
  exact exact.trans_lt short

theorem truncates_next (r : Reader) : Truncates (next r) := by
  refine (r.truncates_le 2).bind fun ⟨length, r⟩ => ?_
  refine (r.truncates_le 2).bind fun ⟨number, r⟩ => ?_
  refine (r.truncates_le 1).bind fun ⟨flags, r⟩ => ?_
  refine (r.truncates_allFields flags optionalFields).bind fun ⟨found, r⟩ => ?_
  refine (r.truncates_le 1).bind fun ⟨service, r⟩ => ?_
  refine (r.truncates_le 1).bind fun ⟨recipient, r⟩ => ?_
  exact (r.truncates_take length).bind fun ⟨data, r⟩ => .ok _

/-- Why the records of a packet may end early. -/
theorem isFatal_of_readAll (h : (readAll r).2 = some fault) :
    (Error.protocol fault).isFatal = false := by
  induction size : r.rest.length using Nat.strongRecOn generalizing r with
  | ind n ih =>
    cases empty : r.isEmpty with
    | true =>
      rw [readAll_of_isEmpty empty] at h
      cases h
    | false =>
      cases read : next r with
      | ok found =>
        rw [readAll_of_next empty read] at h
        exact ih _ (size ▸ next_shorter read) h rfl
      | error cause =>
        rw [readAll_of_fault empty read] at h
        cases h
        exact (truncates_next r).isFatal_eq_false read

end Record

namespace Packet

variable {octets rest : Bytes} {packet : Packet} {fault : ProtocolFault}

theorem length_frame_le (read : next octets = .ok (packet, rest)) :
    packet.frame.length ≤ octets.length := by
  rw [next] at read
  cases peeked : Header.peek (.ofBytes octets) with
  | error fault =>
    rw [peeked] at read
    cases read
  | ok header =>
    rw [peeked] at read
    cases read
    rw [List.length_take, List.length_drop]
    omega

theorem readAll_of_next (least : leastHeader ≤ octets.length)
    (read : next octets = .ok (packet, rest)) :
    readAll octets = (packet :: (readAll rest).1, (readAll rest).2) := by
  rw [readAll, if_pos ((Bytes.hasAtLeast_iff ..).2 least)]
  split <;> rename_i found <;> rw [read] at found <;> cases found
  rfl

theorem readAll_of_fault (least : leastHeader ≤ octets.length)
    (failed : next octets = .error fault) : readAll octets = ([], some fault) := by
  rw [readAll, if_pos ((Bytes.hasAtLeast_iff ..).2 least)]
  split <;> rename_i found <;> rw [failed] at found <;> cases found
  rfl

end Packet

/-! ### What is taken, turn by turn -/

namespace Decoder.Run

variable {δ μ : Type} [Directory δ]

/-- What taking sub-records comes to where they end. -/
def afterSubRecords (fault : Option ProtocolFault) (s : Run δ μ × Position) :
    Except Error Position × Run δ μ :=
  match fault with
  | some fault => (.error (.protocol fault), s.1)
  | none => (.ok s.2, s.1)

/-- What taking records comes to where they end. -/
def afterRecords (fault : Option ProtocolFault) (s : Run δ μ × Option Nat) :
    Option Error × Run δ μ :=
  (fault.map .protocol, s.1)

/-- What taking packets comes to where they end. -/
def afterPackets (fault : Option ProtocolFault) (run : Run δ μ) : Option Error × Run δ μ :=
  (fault.map .protocol, run)

/-- One turn of taking sub-records. -/
def onSubRecord (connection : ConnectionId) (service : Nat) (sub : SubRecord)
    (s : Run δ μ × Position) :
    (Run δ μ × Position) ⊕ (Except Error Position × Run δ μ) :=
  if sub.kind = SubRecord.terminalIdentity then
    match s.1.identify connection service sub.data with
    | (some error, run) => .inr (.error error, run)
    | (none, run) => .inl (run, s.2)
  else
    match Telemetry.apply sub s.2 with
    | .error fault => .inr (.error (.protocol fault), s.1)
    | .ok position => .inl (s.1, position)

/-- One turn of taking records. -/
def onRecord (connection : ConnectionId) (packetId : Nat) (record : Record)
    (s : Run δ μ × Option Nat) :
    (Run δ μ × Option Nat) ⊕ (Option Error × Run δ μ) :=
  let objectId := record.objectId.orElse fun _ => s.2
  match s.1.takeRecord connection packetId objectId record with
  | (some error, run) => .inr (some error, run)
  | (none, run) => .inl (run, objectId)

/-- One turn of taking packets. -/
def onPacket (connection : ConnectionId) (packet : Packet) (run : Run δ μ) :
    Run δ μ ⊕ (Option Error × Run δ μ) :=
  match run.takePacket connection packet with
  | (some error, run) => .inr (some error, run)
  | (none, run) => .inl run

theorem consume_onSubRecord (connection : ConnectionId) (service : Nat)
    (fault : Option ProtocolFault) (subs : List SubRecord) (run : Run δ μ) (position : Position) :
    consume (onSubRecord connection service) afterSubRecords subs fault (run, position) =
      run.takeSubRecords connection service fault subs position := by
  induction subs generalizing run position with
  | nil => cases fault <;> rfl
  | cons sub subs ih =>
    rw [consume, takeSubRecords, onSubRecord]
    by_cases identity : sub.kind = SubRecord.terminalIdentity
    · rw [if_pos identity, if_pos identity]
      dsimp only
      generalize run.identify connection service sub.data = outcome
      obtain ⟨_ | error, run⟩ := outcome
      · exact ih run position
      · rfl
    · rw [if_neg identity, if_neg identity]
      dsimp only
      cases Telemetry.apply sub position with
      | error fault => rfl
      | ok position => exact ih run position

theorem consume_onRecord (connection : ConnectionId) (packetId : Nat) (fault : Option ProtocolFault)
    (records : List Record) (run : Run δ μ) (objectId : Option Nat) :
    consume (onRecord connection packetId) afterRecords records fault (run, objectId) =
      ((run.takeRecords connection packetId objectId records).1.orElse fun _ => fault.map .protocol,
        (run.takeRecords connection packetId objectId records).2) := by
  induction records generalizing run objectId with
  | nil => rfl
  | cons record records ih =>
    rw [consume, takeRecords, onRecord]
    dsimp only
    generalize run.takeRecord connection packetId (record.objectId.orElse fun _ => objectId)
      record = outcome
    obtain ⟨_ | error, run⟩ := outcome
    · exact ih run _
    · rfl

theorem consume_onPacket (connection : ConnectionId) (fault : Option ProtocolFault)
    (packets : List Packet) (run : Run δ μ) :
    consume (onPacket connection) afterPackets packets fault run =
      ((run.takePackets connection packets).1.orElse fun _ => fault.map .protocol,
        (run.takePackets connection packets).2) := by
  induction packets generalizing run with
  | nil => rfl
  | cons packet packets ih =>
    rw [consume, takePackets, onPacket]
    generalize run.takePacket connection packet = outcome
    obtain ⟨_ | error, run⟩ := outcome
    · exact ih run
    · rfl

end Decoder.Run

namespace Checked

open Guarded Scan
open Decoder (Run replyFrame)

/-- Whether enough is left for a packet. -/
def packetLeft (c : Cursor) : Guarded Bool := do
  let left ← c.remaining
  pure (Packet.leastHeader ≤ left)

theorem serves_subRecords (c : Cursor) (sound : c.Sound) :
    Serves unread subRecord id (·.data.length < 65536) (fun c => SubRecord.readAll c.reader) c :=
  serves_of_follows subRecord_follows SubRecord.finds_next SubRecord.next_shorter
    SubRecord.readAll_of_isEmpty SubRecord.readAll_of_next SubRecord.readAll_of_fault sound

theorem serves_records (c : Cursor) (sound : c.Sound) :
    Serves unread record id (·.data.length < 65536) (fun c => Record.readAll c.reader) c :=
  serves_of_follows record_follows Record.finds_next Record.next_shorter Record.readAll_of_isEmpty
    Record.readAll_of_next Record.readAll_of_fault sound

theorem serves_packets (c : Cursor) (sound : c.Sound) :
    Serves packetLeft packet taken (·.frame.length < 2 ^ 63)
        (fun c => Packet.readAll c.reader.rest) c := by
  have left : packetLeft c = .ok (decide (Packet.leastHeader ≤ c.reader.rest.length)) := by
    rw [packetLeft, sound.remaining_eq]
    rfl
  by_cases least : Packet.leastHeader ≤ c.reader.rest.length
  · rw [decide_eq_true least] at left
    cases read : Packet.next c.reader.rest with
    | error fault =>
      exact .short left (packet_of_fault sound read) (Packet.readAll_of_fault least read)
    | ok p =>
      obtain ⟨found, rest⟩ := p
      obtain ⟨after, sound', rfl, done⟩ := packet_of_next sound least read
      exact .found left done sound' (Packet.next_shorter read)
        (Nat.lt_of_le_of_lt (Packet.length_frame_le read) sound.length_rest_lt)
        (Packet.readAll_of_next least read)
  · rw [decide_eq_false least] at left
    exact .ended left (Packet.readAll_of_lt (Nat.not_le.1 least))

/-! ### Answers -/

/-- Puts octets in the place of the first of others. -/
def overwrite (octets front : Bytes) : Guarded Bytes := do
  let rest ← after octets front.length
  pure (front ++ rest)

variable {δ μ : Type}

/-- Sends a record of one sub-record under the next id. -/
def send (run : Run δ μ) (packetType : Nat) (responseTo : Option Nat) (service kind : Nat)
    (content : Bytes) :
    Guarded (Run δ μ) := do
  let _room ← word (3 + content.length)
  let _room ← word (10 + (SubRecord.build kind content).length)
  let frame := replyFrame responseTo service kind content
  let _room ← size Packet.leastHeader frame.length
  pure (run.send packetType frame)

/-- Acknowledges a record of a packet. -/
def acknowledge (run : Run δ μ) (packetId : Nat) (record : Record) : Guarded (Run δ μ) := do
  let content ← overwrite [0, 0, 0] (Bytes.ofLe 2 record.number)
  send run Packet.typeResponse (some packetId) record.service SubRecord.recordResponse content

theorem send_eq (run : Run δ μ) (packetType : Nat) (responseTo : Option Nat) (service kind : Nat)
    {content : Bytes} (short : content.length < 256) :
    send run packetType responseTo service kind content =
      .ok (run.send packetType (replyFrame responseTo service kind content)) := by
  have sub : (SubRecord.build kind content).length = 3 + content.length := by
    simp only [SubRecord.build, List.length_append, Bytes.length_ofLe]
  have frame : (replyFrame responseTo service kind content).length < 65536 := by
    cases responseTo <;> simp [replyFrame, Record.build, sub] <;> omega
  rw [send, word_of_lt (by omega), word_of_lt (by omega)]
  dsimp only [ok_bind]
  rw [size_of_lt (by decide) frame]
  rfl

theorem acknowledge_eq (run : Run δ μ) (packetId : Nat) (record : Record) :
    acknowledge run packetId record = .ok (run.acknowledge packetId record) := by
  have content : overwrite [0, 0, 0] (Bytes.ofLe 2 record.number) =
      .ok (Bytes.ofLe 2 record.number ++ [0]) := by
    rw [overwrite, after_of_le (by simp), Bytes.length_ofLe]
    rfl
  rw [acknowledge, content, ok_bind, send_eq _ _ _ _ _ (by simp)]
  rfl

/-! ### Turns -/

section Turns

variable [Directory δ]

/-- Takes a terminal's identity. -/
def identify (run : Run δ μ) (connection : ConnectionId) (service : Nat) (data : Bytes) :
    Guarded (Option Error × Run δ μ) := do
  if run.decoder.mode = .byIdentifier then
    pure (some (.protocol (.misconfigured
      "terminal identity received while resolving devices by object id")), run)
  else
    match ← identifiers.run data with
    | .error fault => pure (some (.protocol fault), run)
    | .ok identifiers =>
      match run.resolveAll connection identifiers with
      | (some error, run) => pure (some error, run)
      | (none, run) =>
        let run ← send run Packet.typeAppData none service SubRecord.resultCode [0]
        pure (none, run)

theorem identify_eq (run : Run δ μ) (connection : ConnectionId) (service : Nat) {data : Bytes}
    (held : data.length < 2 ^ 63) :
    identify run connection service data = .ok (run.identify connection service data) := by
  rw [identify, Run.identify, identifiers_eq held]
  split
  · rfl
  · cases Terminal.identifiers data with
    | error fault => rfl
    | ok identifiers =>
      dsimp only [ok_bind]
      generalize run.resolveAll connection identifiers = resolved
      obtain ⟨_ | error, run⟩ := resolved
      · dsimp only
        rw [send_eq _ _ _ _ _ (by decide)]
        rfl
      · rfl

/-- Takes a sub-record. -/
def onSubRecord (connection : ConnectionId) (service : Nat) (sub : SubRecord)
    (s : Run δ μ × Position) :
    Guarded ((Run δ μ × Position) ⊕ (Except Error Position × Run δ μ)) := do
  if sub.kind = SubRecord.terminalIdentity then
    match ← identify s.1 connection service sub.data with
    | (some error, run) => pure (.inr (.error error, run))
    | (none, run) => pure (.inl (run, s.2))
  else
    match ← apply sub s.2 with
    | .error fault => pure (.inr (.error (.protocol fault), s.1))
    | .ok position => pure (.inl (s.1, position))

/-- Takes one record about an object, and tells the error if the packet cannot go on. -/
def takeRecord (run : Run δ μ) (connection : ConnectionId) (packetId : Nat) (objectId : Option Nat)
    (record : Record) : Guarded (Option Error × Run δ μ) := do
  let run ← acknowledge run packetId record
  let taken ← takeAll unread subRecord (onSubRecord connection record.service) Run.afterSubRecords
    (run, .blank protocolName) (.start record.data)
  match taken with
  | (.error error, run) => pure (if error.isFatal then some error else none, run)
  | (.ok position, run) => pure (run.reportPosition connection objectId record position)

/-- Takes a record; without an object it is about that of the last with one. -/
def onRecord (connection : ConnectionId) (packetId : Nat) (record : Record)
    (s : Run δ μ × Option Nat) :
    Guarded ((Run δ μ × Option Nat) ⊕ (Option Error × Run δ μ)) := do
  let objectId := record.objectId.orElse fun _ => s.2
  match ← takeRecord s.1 connection packetId objectId record with
  | (some error, run) => pure (.inr (some error, run))
  | (none, run) => pure (.inl (run, objectId))

/-- Takes a packet, and tells the error if it is fatal. -/
def takePacket (run : Run δ μ) (connection : ConnectionId) :
    Option Packet → Guarded (Option Error × Run δ μ)
  | none => pure (none, run)
  | some packet => do
    let (error, run) ← takeAll unread record (onRecord connection packet.id) Run.afterRecords
        (run, none)
      (.start packet.frame)
    pure (error.filter Error.isFatal, run)

/-- Takes a packet of a unit. -/
def onPacket (connection : ConnectionId) (packet : Option Packet) (run : Run δ μ) :
    Guarded (Run δ μ ⊕ (Option Error × Run δ μ)) := do
  match ← takePacket run connection packet with
  | (some error, run) => pure (.inr (some error, run))
  | (none, run) => pure (.inl run)

/-- Decodes a unit of a connection. -/
def decode (decoder : Decoder) (services : Services δ μ) (connection : ConnectionId)
    (bytes : Bytes) :
    Guarded (Except Error (List Position) × Decoder × Services δ μ) := do
  let (error, run) ← takeAll packetLeft packet (onPacket connection) Run.afterPackets
      ⟨decoder, services, []⟩
    (.start bytes)
  let result := match error with
    | some error => .error error
    | none => .ok run.positions
  pure (result, run.decoder, run.services)

variable (connection : ConnectionId)

theorem onSubRecord_eq (service : Nat) {sub : SubRecord} (short : sub.data.length < 65536)
    (s : Run δ μ × Position) :
    onSubRecord connection service sub s = .ok (Run.onSubRecord connection service sub s) := by
  have held : sub.data.length < 2 ^ 63 := by omega
  rw [onSubRecord, Run.onSubRecord, identify_eq s.1 connection service held, apply_eq held]
  split
  · rw [ok_bind]
    generalize s.1.identify connection service sub.data = outcome
    obtain ⟨_ | error, run⟩ := outcome <;> rfl
  · rw [ok_bind]
    cases Telemetry.apply sub s.2 <;> rfl

theorem takeRecord_eq (run : Run δ μ) (packetId : Nat) (objectId : Option Nat) {record : Record}
    (short : record.data.length < 65536) :
    takeRecord run connection packetId objectId record =
      .ok (run.takeRecord connection packetId objectId record) := by
  have sound : (Cursor.start record.data).Sound := Cursor.sound_start (by omega)
  rw [takeRecord, acknowledge_eq, ok_bind, takeAll_eq serves_subRecords
    (fun sub s short => onSubRecord_eq connection record.service short s) _ sound,
    Run.consume_onSubRecord, ok_bind, Run.takeRecord, Cursor.reader_start, ← Record.subRecords]
  dsimp only
  generalize (run.acknowledge packetId record).takeSubRecords connection record.service
    record.subRecords.2 record.subRecords.1 _ = outcome
  obtain ⟨_ | position, run⟩ := outcome <;> rfl

theorem onRecord_eq (packetId : Nat) {record : Record} (short : record.data.length < 65536)
    (s : Run δ μ × Option Nat) :
    onRecord connection packetId record s = .ok (Run.onRecord connection packetId record s) := by
  rw [onRecord, Run.onRecord, takeRecord_eq connection _ _ _ short, ok_bind]
  generalize s.1.takeRecord connection packetId _ record = outcome
  obtain ⟨_ | error, run⟩ := outcome <;> rfl

/-- A fault that is not fatal does not show where only fatal errors do. -/
theorem filter_orElse_of_calm (error : Option Error) {fault : Option ProtocolFault}
    (calm : ∀ cause, fault = some cause → (Error.protocol cause).isFatal = false) :
    (error.orElse fun _ => fault.map .protocol).filter Error.isFatal =
        error.filter Error.isFatal := by
  cases error with
  | some error => rfl
  | none =>
    cases fault with
    | none => rfl
    | some cause => exact Option.filter_some_neg (by simp [calm cause rfl])

theorem takePacket_eq (run : Run δ μ) {packet : Packet} (held : packet.frame.length < 2 ^ 63) :
    takePacket run connection (taken packet) = .ok (run.takePacket connection packet) := by
  rw [taken, Run.takePacket]
  split
  · rfl
  · rw [takePacket, takeAll_eq serves_records
      (fun record s short => onRecord_eq connection packet.id short s) _
      (Cursor.sound_start held), Run.consume_onRecord, Cursor.reader_start, ← Packet.records]
    dsimp only [ok_bind, pure_eq_ok]
    have calm (cause : ProtocolFault) (cut : packet.records.2 = some cause) :
        (Error.protocol cause).isFatal = false := Record.isFatal_of_readAll cut
    rw [filter_orElse_of_calm _ calm]

theorem onPacket_eq {packet : Packet} (held : packet.frame.length < 2 ^ 63) (run : Run δ μ) :
    onPacket connection (taken packet) run = .ok (Run.onPacket connection packet run) := by
  rw [onPacket, Run.onPacket, takePacket_eq connection run held, ok_bind]
  generalize run.takePacket connection packet = outcome
  obtain ⟨_ | error, run⟩ := outcome <;> rfl

/-- No unit makes decoding trap. -/
theorem decode_eq (decoder : Decoder) (services : Services δ μ) {bytes : Bytes}
    (held : bytes.length < 2 ^ 63) :
    decode decoder services connection bytes = .ok (decoder.decode services connection bytes) := by
  rw [decode, takeAll_eq serves_packets (fun packet run held => onPacket_eq connection held run) _
    (Cursor.sound_start held), Run.consume_onPacket]
  rfl

end Turns

end Checked
end TrackerGateway.Egts
