import TrackerGateway.Egts.Decoder
import TrackerGateway.Proofs.Egts.Telemetry
import TrackerGateway.Proofs.Session.Lookup

/-!
# What a unit calls for, read off its packets

`Packet.answers` are the replies that the records of a packet call for. `Packet.subjects` are its
records, each with the object that it is about. `Turn.course` follows them through the registry:
each record has its turn, with the sessions as they stand once its own sub-records were taken, and
`Turn.position?` says which position comes of it. Nothing here sends anything or collects
positions; that the decoder does just this is shown elsewhere.
-/

namespace TrackerGateway

theorem filterMap_cons_toList {α β : Type} (f : α → Option β) (a : α) (rest : List α) :
    (a :: rest).filterMap f = (f a).toList ++ rest.filterMap f := by
  rw [List.filterMap_cons]
  cases f a <;> rfl

namespace Egts

/-! ### Answers -/

/-- A reply that a unit calls for. -/
inductive Answer where
  /-- The acknowledgment of a record. -/
  | record (packetId service number : Nat)
  /-- The result code for a terminal's identity. -/
  | identity (service : Nat)
  deriving DecidableEq, Repr

namespace Answer

/-- The type of the packet that carries an answer. -/
def packetType : Answer → Nat
  | .record .. => Packet.typeResponse
  | .identity _ => Packet.typeAppData

/-- The frame data of an answer: one record with one sub-record. An acknowledgment has in front the
packet that it answers and the result 0, and repeats the number of the record. -/
def frame : Answer → Bytes
  | .record packetId service number =>
    Bytes.ofLe 2 packetId ++ [0] ++
      Record.build 0 service (SubRecord.build SubRecord.recordResponse (Bytes.ofLe 2 number ++ [0]))
  | .identity service => Record.build 0 service (SubRecord.build SubRecord.resultCode [0])

/-- The packets of answers, numbered from `first` in 16 bits. -/
def packets (first : Nat) : List Answer → List Bytes
  | [] => []
  | answer :: rest =>
    Packet.build first answer.packetType answer.frame :: packets ((first + 1) % 65536) rest

/-- The number that comes after those of answers numbered from `first`. -/
def nextId (first : Nat) : List Answer → Nat
  | [] => first
  | _ :: rest => nextId ((first + 1) % 65536) rest

theorem packets_append (first : Nat) (answers more : List Answer) :
    packets first (answers ++ more) = packets first answers ++ packets
        (nextId first answers) more := by
  induction answers generalizing first with
  | nil => rfl
  | cons answer answers ih => rw [List.cons_append, packets, packets, nextId, ih, List.cons_append]

theorem nextId_append (first : Nat) (answers more : List Answer) :
    nextId first (answers ++ more) = nextId (nextId first answers) more := by
  induction answers generalizing first with
  | nil => rfl
  | cons answer answers ih => rw [List.cons_append, nextId, nextId, ih]

end Answer

namespace SubRecord

/-- The terminal identities that were read before the first sub-record that cannot be. -/
def identities (subs : List SubRecord) : List SubRecord :=
  (subs.takeWhile isWellFormed).filter (·.kind == terminalIdentity)

theorem identities_cons_of_malformed {sub : SubRecord} {rest : List SubRecord}
    (h : sub.isWellFormed = false) : identities (sub :: rest) = [] := by
  rw [identities, List.takeWhile_cons_of_neg (Bool.eq_false_iff.1 h), List.filter_nil]

theorem identities_cons_of_identity {sub : SubRecord} {rest : List SubRecord}
    (kind : sub.kind = terminalIdentity) (h : sub.isWellFormed = true) :
    identities (sub :: rest) = sub :: identities rest := by
  rw [identities, List.takeWhile_cons_of_pos h,
    List.filter_cons_of_pos (by simpa using kind), identities]

theorem identities_cons_of_other {sub : SubRecord} {rest : List SubRecord}
    (kind : sub.kind ≠ terminalIdentity) (h : sub.isWellFormed = true) :
    identities (sub :: rest) = identities rest := by
  rw [identities, List.takeWhile_cons_of_pos h,
    List.filter_cons_of_neg (by simpa using kind), identities]

end SubRecord

namespace Record

/-- The answers to the identities in a record. -/
def identityAnswers (service : Nat) (subs : List SubRecord) : List Answer :=
  (SubRecord.identities subs).map fun _ => .identity service

/-- The answers to a record of a packet. -/
def answers (packetId : Nat) (record : Record) : List Answer :=
  .record packetId record.service record.number ::
    identityAnswers record.service record.subRecords.1

/-- The identifiers of the terminals that a record tells of. -/
def identifiers (record : Record) : List String :=
  (SubRecord.identities record.subRecords.1).flatMap SubRecord.identifiers

/-- Whether all sub-records of a record are there and can be read. -/
def isWellFormed (record : Record) : Bool :=
  record.subRecords.2.isNone && record.subRecords.1.all SubRecord.isWellFormed

/-- Whether a record says where the device was. -/
def hasPosition (record : Record) : Bool :=
  record.subRecords.1.any (·.kind == SubRecord.positionData)

/-- What the sub-records of a record say together. -/
def report (record : Record) : Position :=
  record.subRecords.1.foldl SubRecord.report (.blank protocolName)

theorem isFix_report {record : Record} (h : record.isWellFormed = true) :
    record.report.isFix = record.hasPosition := by
  rw [isWellFormed, Bool.and_eq_true] at h
  exact SubRecord.isFix_foldl_report h.2 _

/-- Records with the objects that they are about: a record without one is about that of the last
record with one. -/
def withObjects (objectId : Option Nat) : List Record → List (Option Nat × Record)
  | [] => []
  | record :: rest =>
    let objectId := record.objectId.orElse fun _ => objectId
    (objectId, record) :: withObjects objectId rest

theorem map_withObjects (objectId : Option Nat) (records : List Record) :
    (withObjects objectId records).map (·.2) = records := by
  induction records generalizing objectId with
  | nil => rfl
  | cons record rest ih => rw [withObjects, List.map_cons, ih]

end Record

namespace Packet

/-- The answers to the records of a packet. Acknowledgments are not answered. -/
def answers (packet : Packet) : List Answer :=
  if packet.packetType = typeResponse then []
  else packet.records.1.flatMap (Record.answers packet.id)

/-- The records of a packet with the objects that they are about. -/
def subjects (packet : Packet) : List (Option Nat × Record) :=
  if packet.packetType = typeResponse then [] else Record.withObjects none packet.records.1

end Packet

/-! ### Turns -/

/-- A record at its turn. -/
structure Turn (δ : Type) where
  record : Record
  /-- The object that the record is about. -/
  objectId : Option Nat
  /-- The sessions once the sub-records of the record were taken. -/
  sessions : Sessions δ

namespace Turn

variable {δ : Type}

/-- Whether the record is telemetry that says where a device was, and nothing of it is malformed. -/
def isReport (turn : Turn δ) : Bool :=
  turn.record.service == Record.teledataService && turn.record.isWellFormed &&
    turn.record.hasPosition

/-- The object that a record names, which is not that of number 0. -/
def object? (turn : Turn δ) : Option Nat := turn.objectId.filter (· != 0)

theorem isReport_of_malformed {turn : Turn δ} (h : turn.record.isWellFormed = false) :
    turn.isReport = false := by
  rw [isReport, h, Bool.and_false, Bool.false_and]

variable [Directory δ]

/-- The turn of a record that comes to these sessions. -/
def start (connection : ConnectionId) (s : Sessions δ) (subject : Option Nat × Record) : Turn δ :=
  ⟨subject.2, subject.1, s.bound connection subject.2.identifiers⟩

/-- The device that the record is about: that of the connection, or that of the object. -/
def device? (mode : SessionMode) (connection : ConnectionId) (turn : Turn δ) : Option DeviceId :=
  match mode with
  | .byConnection => (turn.sessions.1.sessionOf? connection).map (·.deviceId)
  | .byIdentifier => turn.object?.bind fun id =>
    turn.sessions.1.numberOf? turn.sessions.2 (toString id)

/-- The position that comes of the record. -/
def position? (mode : SessionMode) (connection : ConnectionId) (turn : Turn δ) : Option Position :=
  if turn.isReport then
    (turn.device? mode connection).map fun deviceId => { turn.record.report with deviceId }
  else none

/-- The sessions after the turn: where the device was looked for by its object, that is
remembered. -/
def finish (mode : SessionMode) (connection : ConnectionId) (turn : Turn δ) : Sessions δ :=
  match mode, turn.object? with
  | .byIdentifier, some id =>
    if turn.isReport then turn.sessions.named .byIdentifier connection (toString id)
    else turn.sessions
  | _, _ => turn.sessions

/-- The turns of records, each with what those before it left. -/
def course (mode : SessionMode) (connection : ConnectionId) (s : Sessions δ) :
    List (Option Nat × Record) → List (Turn δ)
  | [] => []
  | subject :: rest =>
    let turn := start connection s subject
    turn :: course mode connection (turn.finish mode connection) rest

/-- The positions that come of records. -/
def positions (mode : SessionMode) (connection : ConnectionId) (s : Sessions δ)
    (subjects : List (Option Nat × Record)) : List Position :=
  (course mode connection s subjects).filterMap (position? mode connection)

/-- The sessions after the turns of records. -/
def outcome (mode : SessionMode) (connection : ConnectionId) (s : Sessions δ)
    (subjects : List (Option Nat × Record)) : Sessions δ :=
  subjects.foldl (fun s subject => (start connection s subject).finish mode connection) s

theorem position?_of_other {mode : SessionMode} {connection : ConnectionId} {turn : Turn δ}
    (h : turn.isReport = false) : turn.position? mode connection = none := by
  rw [position?, h]
  rfl

theorem finish_of_other {mode : SessionMode} {connection : ConnectionId} {turn : Turn δ}
    (h : turn.isReport = false) : turn.finish mode connection = turn.sessions := by
  unfold finish
  split
  · rw [h]
    rfl
  · rfl

/-- A turn keeps what cannot be lost by naming an identifier. -/
theorem finish_induction (keeps : Sessions δ → Prop) {connection : ConnectionId}
    (step : ∀ s mode uniqueId, keeps s → keeps (s.named mode connection uniqueId))
    (mode : SessionMode) {s : Sessions δ} (h : keeps s) (subject : Option Nat × Record) :
    keeps ((start connection s subject).finish mode connection) := by
  have taken : keeps (start connection s subject).sessions :=
    Sessions.bound_induction keeps (fun s uniqueId => step s .byConnection uniqueId) _ h
  unfold finish
  split
  · split
    · exact step _ _ _ taken
    · exact taken
  · exact taken

theorem reliable_finish {mode : SessionMode} {connection : ConnectionId} {s : Sessions δ}
    (reliable : Directory.Reliable s.2) (subject : Option Nat × Record) :
    Directory.Reliable ((start connection s subject).finish mode connection).2 :=
  finish_induction (fun s => Directory.Reliable s.2)
    (fun _ mode uniqueId h => Registry.reliable_resolve h mode connection uniqueId) mode reliable
    subject

theorem course_append (mode : SessionMode) (connection : ConnectionId) (s : Sessions δ)
    (first second : List (Option Nat × Record)) :
    course mode connection s (first ++ second) =
      course mode connection s first ++
        course mode connection (outcome mode connection s first) second := by
  induction first generalizing s with
  | nil => rfl
  | cons subject rest ih =>
    simp only [List.cons_append, course, ih]
    rfl

theorem positions_cons (mode : SessionMode) (connection : ConnectionId) (s : Sessions δ)
    (subject : Option Nat × Record) (rest : List (Option Nat × Record)) :
    positions mode connection s (subject :: rest) =
      ((start connection s subject).position? mode connection).toList ++
        positions mode connection ((start connection s subject).finish mode connection) rest := by
  rw [positions, course, filterMap_cons_toList, positions]

theorem positions_append (mode : SessionMode) (connection : ConnectionId) (s : Sessions δ)
    (first second : List (Option Nat × Record)) :
    positions mode connection s (first ++ second) =
      positions mode connection s first ++
        positions mode connection (outcome mode connection s first) second := by
  rw [positions, course_append, List.filterMap_append]
  rfl

theorem outcome_append (mode : SessionMode) (connection : ConnectionId) (s : Sessions δ)
    (first second : List (Option Nat × Record)) :
    outcome mode connection s (first ++ second) =
      outcome mode connection (outcome mode connection s first) second :=
  List.foldl_append

/-- What naming an identifier cannot lose is there at every turn. -/
theorem forall_course (keeps : Sessions δ → Prop) {connection : ConnectionId}
    (step : ∀ s mode uniqueId, keeps s → keeps (s.named mode connection uniqueId))
    (mode : SessionMode) {s : Sessions δ} (h : keeps s) (subjects : List (Option Nat × Record)) :
    ∀ turn ∈ course mode connection s subjects, keeps turn.sessions := by
  induction subjects generalizing s with
  | nil =>
    intro turn member
    cases member
  | cons subject rest ih =>
    intro turn member
    rw [course, List.mem_cons] at member
    rcases member with rfl | later
    · exact Sessions.bound_induction keeps (fun s uniqueId => step s .byConnection uniqueId) _ h
    · exact ih (finish_induction keeps step mode h subject) turn later

theorem reliable_outcome {mode : SessionMode} {connection : ConnectionId} {s : Sessions δ}
    (reliable : Directory.Reliable s.2) (subjects : List (Option Nat × Record)) :
    Directory.Reliable (outcome mode connection s subjects).2 := by
  induction subjects generalizing s with
  | nil => exact reliable
  | cons subject rest ih => exact ih (reliable_finish reliable subject)

end Turn
end Egts
end TrackerGateway
