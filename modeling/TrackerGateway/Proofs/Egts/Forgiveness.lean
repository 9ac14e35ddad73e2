import TrackerGateway.Proofs.Egts.Boundaries
import TrackerGateway.Proofs.Session.Resemblance

/-!
# Objects that cannot be looked up

A decoder that goes by object ids asks the directory for each record that tells a position. Where
the directory fails, nothing more of the packet is taken. Beside the run over a directory that
does not know the identifier instead (`Run.Forgiven`), the two do the same up to that record, and
the one that fails does no more (`Run.takePacket_forgiving`): the failure costs its own record
only if it is in the last record of the packet.
-/

namespace TrackerGateway

/-- The same services with a directory that forgives its failures. -/
def Services.forgiving {δ μ : Type} (services : Services δ μ) : Services (Forgiving δ) μ where
  registry := services.registry
  directory := ⟨services.directory⟩
  media := services.media
  replies := services.replies

namespace Egts.Decoder

/-- A record and the object that it is about. -/
def Visit.subject {δ μ : Type} (visit : Visit δ μ) : Option Nat × Record :=
  (visit.objectId, visit.record)

namespace Run

variable {δ μ : Type}

def forgiving (run : Run δ μ) : Run (Forgiving δ) μ :=
  ⟨run.decoder, run.services.forgiving, run.positions⟩

/-- Whether a run over a directory that forgives its failures is where another one is. -/
structure Forgiven (run : Run δ μ) (run' : Run (Forgiving δ) μ) : Prop where
  decoder : run'.decoder = run.decoder
  registry : run.services.registry.Resembles (fun _ => True) run'.services.registry
  directory : run'.services.directory = ⟨run.services.directory⟩
  media : run'.services.media = run.services.media
  replies : run'.services.replies = run.services.replies
  positions : run'.positions = run.positions

theorem forgiven_forgiving (run : Run δ μ) : run.Forgiven run.forgiving :=
  ⟨rfl, .refl _, rfl, rfl, rfl, rfl⟩

section

variable {run : Run δ μ} {run' : Run (Forgiving δ) μ} (h : run.Forgiven run')
include h

theorem Forgiven.acknowledge (packetId : Nat) (record : Record) :
    (run.acknowledge packetId record).Forgiven (run'.acknowledge packetId record) := by
  refine ⟨?_, h.registry, h.directory, h.media, ?_, h.positions⟩
  · simp only [Run.acknowledge, send, h.decoder]
  · simp only [Run.acknowledge, send, Services.respond, h.decoder, h.replies]

theorem Forgiven.emit (position : Position) (session : Session) :
    (run.emit position session).Forgiven (run'.emit position session) := by
  refine ⟨h.decoder, h.registry, h.directory, h.media, h.replies, ?_⟩
  simp only [Run.emit, h.positions]

variable [Directory δ]

theorem Forgiven.resolve (connection : ConnectionId) (uniqueId : String) :
    (run'.resolve connection uniqueId).1 =
        Registry.forgiven (run.resolve connection uniqueId).1 ∧
      (run.resolve connection uniqueId).2.Forgiven (run'.resolve connection uniqueId).2 := by
  obtain ⟨decoder', ⟨registry', directory', media', replies'⟩, positions'⟩ := run'
  obtain ⟨rfl, registry, rfl, rfl, rfl, rfl⟩ := h
  obtain ⟨found, directory, registry⟩ := registry.resolve_forgiving run.services.directory
    run.decoder.mode connection uniqueId
  exact ⟨found, rfl, registry, directory, rfl, rfl, rfl⟩

theorem Forgiven.sessionFor (mode : run.decoder.mode = .byIdentifier) (connection : ConnectionId)
    (objectId : Option Nat) :
    (run'.sessionFor connection objectId).1 =
        Registry.forgiven (run.sessionFor connection objectId).1 ∧
      (run.sessionFor connection objectId).2.Forgiven (run'.sessionFor connection objectId).2 := by
  unfold Run.sessionFor
  rw [h.decoder, mode]
  cases objectId.filter (· != 0) with
  | none => exact ⟨rfl, h⟩
  | some id => exact h.resolve connection (toString id)

theorem Forgiven.reportPosition (mode : run.decoder.mode = .byIdentifier)
    (connection : ConnectionId) (objectId : Option Nat) (record : Record) (position : Position) :
    (run'.reportPosition connection objectId record position).1 = none ∧
      (run.reportPosition connection objectId record position).2.Forgiven
        (run'.reportPosition connection objectId record position).2 := by
  unfold Run.reportPosition
  split
  · obtain ⟨found, after⟩ := h.sessionFor mode connection objectId
    generalize run.sessionFor connection objectId = outcome at found after ⊢
    generalize run'.sessionFor connection objectId = outcome' at found after ⊢
    obtain ⟨result, next⟩ := outcome
    obtain ⟨_, next'⟩ := outcome'
    cases found
    match result with
    | .error _ => exact ⟨rfl, after⟩
    | .ok none => exact ⟨rfl, after⟩
    | .ok (some session) => exact ⟨rfl, after.emit position session⟩
  · exact ⟨rfl, h⟩

end

/-! ### One record -/

variable [Directory δ]

/-- A decoder that goes by object ids names no identifier while it takes sub-records, so what it
makes of them depends on nothing else. -/
theorem takeSubRecords_byIdentifier {δ' : Type} [Directory δ'] {run : Run δ μ} {run' : Run δ' μ}
    (mode : run.decoder.mode = .byIdentifier) (mode' : run'.decoder.mode = .byIdentifier)
    (connection : ConnectionId) (service : Nat) (fault : Option ProtocolFault)
    (subs : List SubRecord) (position : Position) :
    ∃ result, run.takeSubRecords connection service fault subs position = (result, run) ∧
      run'.takeSubRecords connection service fault subs position = (result, run') := by
  induction subs generalizing position with
  | nil =>
    cases fault with
    | none => exact ⟨_, rfl, rfl⟩
    | some fault => exact ⟨_, rfl, rfl⟩
  | cons sub subs ih =>
    rw [takeSubRecords, takeSubRecords]
    by_cases kind : sub.kind = SubRecord.terminalIdentity
    · rw [if_pos kind, if_pos kind, identify, identify, if_pos mode, if_pos mode']
      exact ⟨_, rfl, rfl⟩
    · rw [if_neg kind, if_neg kind]
      cases Telemetry.apply sub position with
      | error fault => exact ⟨_, rfl, rfl⟩
      | ok changed => exact ih changed

/-- What comes of records over a directory that forgives its failures: only what is fatal goes
on. -/
structure Forgives (outcome : Option Error × Run δ μ)
    (outcome' : Option Error × Run (Forgiving δ) μ) : Prop where
  error : outcome'.1 = outcome.1.filter Error.isFatal
  run : outcome.2.Forgiven outcome'.2

variable {run : Run δ μ} {run' : Run (Forgiving δ) μ}

theorem Plain.forgives_takeRecord (plain : run.Plain .byIdentifier) (h : run.Forgiven run')
    (connection : ConnectionId) (packetId : Nat) (objectId : Option Nat) (record : Record) :
    Forgives (run.takeRecord connection packetId objectId record)
      (run'.takeRecord connection packetId objectId record) := by
  have acknowledged := h.acknowledge packetId record
  have plain' : (run.acknowledge packetId record).Plain .byIdentifier :=
    ⟨plain.mode, plain.directory⟩
  have mode' : (run'.acknowledge packetId record).decoder.mode = .byIdentifier := by
    rw [acknowledged.decoder]
    exact plain'.mode
  obtain ⟨result, taken, taken'⟩ := takeSubRecords_byIdentifier plain'.mode mode' connection
    record.service record.subRecords.2 record.subRecords.1 (.blank protocolName)
  unfold takeRecord
  simp only [taken, taken']
  cases result with
  | error error =>
    refine ⟨?_, acknowledged⟩
    simp only
    split
    · rename_i fatal
      rw [Option.filter_some, if_pos fatal]
    · rfl
  | ok position =>
    obtain ⟨calm, after⟩ :=
      acknowledged.reportPosition plain'.mode connection objectId record position
    refine ⟨?_, after⟩
    simp only [calm]
    cases failed : ((run.acknowledge packetId record).reportPosition connection objectId record
      position).1 with
    | none => rfl
    | some error =>
      rw [Option.filter_some, plain'.isFatal_of_reportPosition failed]
      rfl

/-- A record whose error is not fatal, but which nothing comes after, is about an object for which
the directory failed. -/
theorem Plain.lookup_of_takeRecord (plain : run.Plain .byIdentifier) {connection : ConnectionId}
    {packetId : Nat} {objectId : Option Nat} {record : Record} {error : Error}
    (failed : (run.takeRecord connection packetId objectId record).1 = some error)
    (calm : error.isFatal = false) :
    ∃ id, objectId = some id ∧ id ≠ 0 ∧
      (Directory.lookup run.services.directory (toString id)).1 = .failed error := by
  have plain' : (run.acknowledge packetId record).Plain .byIdentifier :=
    ⟨plain.mode, plain.directory⟩
  obtain ⟨result, taken, -⟩ := takeSubRecords_byIdentifier plain'.mode plain'.mode connection
    record.service record.subRecords.2 record.subRecords.1 (.blank protocolName)
  unfold takeRecord at failed
  simp only [taken] at failed
  cases result with
  | error cause =>
    simp only at failed
    split at failed
    · rename_i fatal
      cases failed
      rw [calm] at fatal
      cases fatal
    · cases failed
  | ok position =>
    have missing : ((run.acknowledge packetId record).reportPosition connection objectId record
        position).1 = some error := failed
    have told := lookup_of_reportPosition missing
    exact told

/-! ### The records of a packet -/

/-- The object that a record without one is about once these records were taken. -/
def lastObject (objectId : Option Nat) (records : List Record) : Option Nat :=
  records.foldl (fun objectId record => record.objectId.orElse fun _ => objectId) objectId

theorem takeRecords_append (run : Run δ μ) (connection : ConnectionId) (packetId : Nat)
    (objectId : Option Nat) (first second : List Record) :
    run.takeRecords connection packetId objectId (first ++ second) =
      match run.takeRecords connection packetId objectId first with
      | (some error, run) => (some error, run)
      | (none, run) => run.takeRecords connection packetId (lastObject objectId first) second := by
  induction first generalizing run objectId with
  | nil => rfl
  | cons record rest ih =>
    rw [List.cons_append, takeRecords, takeRecords]
    rcases run.takeRecord connection packetId (record.objectId.orElse fun _ => objectId) record with
      ⟨_ | error, next⟩
    · exact ih next _
    · rfl

theorem replies_lt_takeRecords (run : Run δ μ) (connection : ConnectionId) (packetId : Nat)
    (objectId : Option Nat) (record : Record) (rest : List Record) :
    run.services.replies.length <
      (run.takeRecords connection packetId objectId
          (record :: rest)).2.services.replies.length := by
  obtain ⟨sent, replies, acknowledged⟩ :=
    (run.gathers_takeRecords connection packetId objectId (record :: rest)).replies
  have nonempty : sent ≠ [] := by
    rintro rfl
    rw [visitsOfRecords] at acknowledged
    cases acknowledged
  rw [replies, List.length_append]
  exact Nat.lt_add_of_pos_right (List.length_pos_iff.2 nonempty)

/-- The records that a run comes to are the first ones of the packet. With these a run over the
directory that forgives its failures comes to the same. -/
theorem Plain.forgives_takeRecords (plain : run.Plain .byIdentifier) (h : run.Forgiven run')
    (connection : ConnectionId) (packetId : Nat) (objectId : Option Nat) (records : List Record) :
    let visits := run.visitsOfRecords connection packetId objectId records
    visits.map Visit.subject <+: Record.withObjects objectId records ∧
      Forgives (run.takeRecords connection packetId objectId records)
        (run'.takeRecords connection packetId objectId (visits.map (·.record))) := by
  induction records generalizing run run' objectId with
  | nil => exact ⟨List.prefix_rfl, rfl, h⟩
  | cons record rest ih =>
    have first := plain.forgives_takeRecord h connection packetId
      (record.objectId.orElse fun _ => objectId) record
    have plain' := plain.keeps_takeRecord connection packetId
      (record.objectId.orElse fun _ => objectId) record
    simp only [visitsOfRecords, Record.withObjects, List.map_cons, List.cons_prefix_cons,
      takeRecords]
    generalize run.takeRecord connection packetId _ record = outcome at first plain' ⊢
    generalize run'.takeRecord connection packetId _ record = outcome' at first ⊢
    obtain ⟨error, next⟩ := outcome
    obtain ⟨error', next'⟩ := outcome'
    obtain ⟨sameError, after⟩ := first
    cases error with
    | none =>
      cases sameError
      obtain ⟨front, taken⟩ := ih plain' after _
      exact ⟨⟨rfl, front⟩, taken⟩
    | some error =>
      -- Fatal or not, no record is left for the other run to take.
      refine ⟨⟨rfl, List.nil_prefix⟩, ?_⟩
      cases error' with
      | none => exact ⟨sameError, after⟩
      | some error' => exact ⟨sameError, after⟩

/-- The run takes all records, or the one that it came to last has an error. -/
theorem Plain.last_visit {mode : SessionMode} (plain : run.Plain mode) (connection : ConnectionId)
    (packetId : Nat) (objectId : Option Nat) (records : List Record) :
    let visits := run.visitsOfRecords connection packetId objectId records
    match (run.takeRecords connection packetId objectId records).1 with
    | none => visits.map Visit.subject = Record.withObjects objectId records
    | some error => ∃ visit, visits.getLast? = some visit ∧ visit.run.Plain mode ∧
        (visit.run.takeRecord connection visit.packetId visit.objectId visit.record).1 =
          some error := by
  induction records generalizing run objectId with
  | nil => rfl
  | cons record rest ih =>
    have plain' := plain.keeps_takeRecord connection packetId
      (record.objectId.orElse fun _ => objectId) record
    simp only [visitsOfRecords, Record.withObjects, takeRecords, List.map_cons]
    cases taken : run.takeRecord connection packetId (record.objectId.orElse fun _ => objectId)
      record with
    | mk error next =>
      rw [taken] at plain'
      cases error with
      | some error =>
        exact ⟨⟨run, packetId, record.objectId.orElse fun _ => objectId, record⟩, rfl, plain,
          congrArg Prod.fst taken⟩
      | none =>
        have later := ih plain' (record.objectId.orElse fun _ => objectId)
        simp only at later ⊢
        generalize (next.takeRecords connection packetId _ rest).1 = error at later ⊢
        cases error with
        | none => exact congrArg (_ :: ·) later
        | some error =>
          obtain ⟨visit, last, failed⟩ := later
          refine ⟨visit, ?_, failed⟩
          rw [List.getLast?_cons, last]
          rfl

/-- Over all records the two send the same and find the same, unless one is left that the run did
not come to. -/
theorem Plain.agrees_takeRecords_iff (plain : run.Plain .byIdentifier) (h : run.Forgiven run')
    (connection : ConnectionId) (packetId : Nat) (objectId : Option Nat) (records : List Record) :
    let visits := run.visitsOfRecords connection packetId objectId records
    let outcome := run.takeRecords connection packetId objectId records
    let whole := run'.takeRecords connection packetId objectId records
    (whole.2.services.replies = outcome.2.services.replies ∧
        whole.2.positions = outcome.2.positions) ↔
      (outcome.1.filter Error.isFatal = none →
        visits.map Visit.subject = Record.withObjects objectId records) := by
  intro visits outcome whole
  obtain ⟨⟨unread, split⟩, forgives⟩ :=
    plain.forgives_takeRecords h connection packetId objectId records
  have reached : visits.map (·.record) ++ unread.map (·.2) = records := by
    have parts := congrArg (List.map (·.2)) split
    rwa [Record.map_withObjects, List.map_append, List.map_map] at parts
  have onward := run'.takeRecords_append connection packetId objectId (visits.map (·.record))
    (unread.map (·.2))
  rw [reached] at onward
  generalize run'.takeRecords connection packetId objectId (visits.map (·.record)) = front
    at forgives onward
  obtain ⟨error, next⟩ := front
  cases error with
  | some error =>
    -- The error is fatal, so it ends both.
    have stopped : whole = (some error, next) := onward
    rw [stopped]
    refine ⟨fun _ calm => ?_, fun _ => ⟨forgives.run.replies, forgives.run.positions⟩⟩
    have fatal : some error = none := forgives.error.trans calm
    cases fatal
  | none =>
    cases unread with
    | nil =>
      have ended : whole = (none, next) := onward
      rw [List.append_nil] at split
      rw [ended]
      exact ⟨fun _ _ => split, fun _ => ⟨forgives.run.replies, forgives.run.positions⟩⟩
    | cons subject unread =>
      -- The other run goes on and acknowledges at least one record more.
      have more := next.replies_lt_takeRecords connection packetId
        (lastObject objectId (visits.map (·.record))) subject.2 (unread.map (·.2))
      have left : whole = next.takeRecords connection packetId
        (lastObject objectId (visits.map (·.record))) (subject.2 :: unread.map (·.2)) := onward
      rw [← left, forgives.run.replies] at more
      constructor
      · rintro ⟨replies, -⟩
        rw [replies] at more
        exact absurd more (Nat.lt_irrefl _)
      · intro all
        have same := all forgives.error.symm
        rw [← split, List.self_eq_append_right] at same
        cases same

/-- A decoder that goes by object ids, over a directory that says no more of its failures than
that it failed, does with the first records of a packet what it would do if the directory did not
know the identifiers for which it fails. It sends the same replies and finds the same positions
over the whole packet just if these are all records or the unit is given up. Otherwise the
directory failed for the object of the last of them. -/
theorem takePacket_forgiving (run : Run δ μ) (plain : run.Plain .byIdentifier)
    (connection : ConnectionId) (packet : Packet) :
    let visits := run.visitsOfPacket connection packet
    let outcome := run.takePacket connection packet
    let front := run.forgiving.takeRecords connection packet.id none (visits.map (·.record))
    let whole := run.forgiving.takePacket connection packet
    (visits.map Visit.subject <+: packet.subjects ∧ front.1 = outcome.1 ∧
        outcome.2.Forgiven front.2) ∧
      ((whole.2.services.replies = outcome.2.services.replies ∧
          whole.2.positions = outcome.2.positions) ↔
        (outcome.1 = none → visits.map Visit.subject = packet.subjects)) ∧
      (outcome.1 = none → visits.map Visit.subject ≠ packet.subjects →
        ∃ visit id error, visits.getLast? = some visit ∧ visit.objectId = some id ∧ id ≠ 0 ∧
          (Directory.lookup visit.run.services.directory (toString id)).1 = .failed error) := by
  have start := run.forgiven_forgiving
  unfold visitsOfPacket Packet.subjects takePacket
  by_cases carries : packet.packetType = Packet.typeResponse
  · simp only [if_pos carries]
    exact ⟨⟨List.prefix_rfl, rfl, start⟩, ⟨fun _ _ => rfl, fun _ => ⟨rfl, rfl⟩⟩,
      fun _ differ => absurd rfl differ⟩
  · simp only [if_neg carries]
    obtain ⟨front, forgives⟩ :=
      plain.forgives_takeRecords start connection packet.id none packet.records.1
    have agrees := plain.agrees_takeRecords_iff start connection packet.id none packet.records.1
    have last := plain.last_visit connection packet.id none packet.records.1
    refine ⟨⟨front, forgives.error, forgives.run⟩, agrees, fun calm differ => ?_⟩
    cases failed : (run.takeRecords connection packet.id none packet.records.1).1 with
    | none =>
      rw [failed] at last
      exact absurd last differ
    | some error =>
      rw [failed] at last calm
      obtain ⟨visit, isLast, plain', stopped⟩ := last
      have harmless : error.isFatal = false := by
        simpa using calm
      obtain ⟨id, object, nonzero, missing⟩ := plain'.lookup_of_takeRecord stopped harmless
      exact ⟨visit, id, error, isLast, object, nonzero, missing⟩

/-- A record about an object, with its place. -/
def samplePlaceOf (number object : Nat) : Bytes :=
  Bytes.ofLe 2 samplePlace.length ++ Bytes.ofLe 2 number ++ [1] ++ Bytes.ofLe 4 object ++ [2, 2] ++
    samplePlace

/-- What a gateway shares whose directory knows one object and fails for another. -/
def partlyBroken : Services (String → Lookup) Unit where
  registry := .empty
  directory uniqueId :=
    if uniqueId = "77" then .failed (.directory "backend unavailable")
    else if uniqueId = "3000" then .known ⟨8⟩ else .unknown
  media := ()
  replies := []

theorem plain_partlyBroken : Directory.Plain partlyBroken.directory := by
  refine Directory.plain_answers fun uniqueId error failed => ?_
  simp only [partlyBroken] at failed
  split at failed
  · cases failed
    exact ⟨_, rfl⟩
  · split at failed <;> cases failed

/-- The directory fails for the last record of a packet. -/
theorem takePacket_forgiving_last :
    let run : Run (String → Lookup) Unit := ⟨start .byIdentifier, partlyBroken, []⟩
    let packet : Packet := ⟨1, Packet.typeAppData, samplePlaceOf 1 3000 ++ samplePlaceOf 2 77⟩
    let outcome := run.takePacket ⟨1⟩ packet
    let whole := run.forgiving.takePacket ⟨1⟩ packet
    run.Plain .byIdentifier ∧ whole.2.services.replies = outcome.2.services.replies ∧
      whole.2.positions = outcome.2.positions := by
  intro run packet outcome whole
  have plain : run.Plain .byIdentifier := ⟨rfl, plain_partlyBroken⟩
  have all : (run.visitsOfPacket ⟨1⟩ packet).map Visit.subject = packet.subjects := by
    decide +kernel
  obtain ⟨-, agrees, -⟩ := takePacket_forgiving run plain ⟨1⟩ packet
  exact ⟨plain, agrees.2 fun _ => all⟩

end Run

/-- The directory fails for the first record of a packet: the second one is not acknowledged. -/
theorem not_decode_forgiving :
    ¬ ∀ (services : Services (String → Lookup) Unit) (connection : ConnectionId) (packet : Bytes),
        Directory.Plain services.directory → Packet.Whole packet →
          let outcome := (start .byIdentifier).decode services connection packet
          let forgiving := (start .byIdentifier).decode services.forgiving connection packet
          forgiving.2.2.replies = outcome.2.2.replies ∧ forgiving.1 = outcome.1 := by
  intro claim
  let packet := Packet.build 1 Packet.typeAppData
    (Run.samplePlaceOf 1 77 ++ Run.samplePlaceOf 2 3000)
  have whole : Packet.Whole packet := by decide +kernel
  obtain ⟨replies, -⟩ := claim Run.partlyBroken ⟨1⟩ packet Run.plain_partlyBroken whole
  have differ : ((start .byIdentifier).decode Run.partlyBroken.forgiving ⟨1⟩ packet).2.2.replies ≠
      ((start .byIdentifier).decode Run.partlyBroken ⟨1⟩ packet).2.2.replies := by
    decide +kernel
  exact differ replies

end Egts.Decoder
end TrackerGateway
