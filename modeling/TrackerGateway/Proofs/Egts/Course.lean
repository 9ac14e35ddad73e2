import TrackerGateway.Proofs.Egts.Turn

/-!
# The decoder follows the course of a unit

`Run.Reaches` says what a part of a unit has done to a run: which answers were sent, what became
of the sessions, and which positions were found. Parts that follow each other add up
(`Reaches.trans`). Over a directory that always answers, sub-records, records and packets that end
in no fatal error do what `Turn.course` says of them; the main statement is `decode_reaches`.
-/

namespace TrackerGateway.Egts.Decoder.Run

variable {δ μ : Type}

/-- The sessions of a run. -/
def sessions (run : Run δ μ) : Sessions δ := (run.services.registry, run.services.directory)

/-- What was done between two states of a run. -/
structure Reaches (run : Run δ μ) (answers : List Answer) (sessions : Sessions δ)
    (found : List Position) (run' : Run δ μ) : Prop where
  mode : run'.decoder.mode = run.decoder.mode
  packetId : run'.decoder.packetId = Answer.nextId run.decoder.packetId answers
  replies : run'.services.replies =
    run.services.replies ++ Answer.packets run.decoder.packetId answers
  sessions : run'.sessions = sessions
  positions : run'.positions = run.positions ++ found

theorem Reaches.refl (run : Run δ μ) : run.Reaches [] run.sessions [] run where
  mode := rfl
  packetId := rfl
  replies := (List.append_nil _).symm
  sessions := rfl
  positions := (List.append_nil _).symm

theorem Reaches.trans {run run' run'' : Run δ μ} {answers more : List Answer}
    {sessions final : Sessions δ} {found others : List Position}
    (first : run.Reaches answers sessions found run')
    (second : run'.Reaches more final others run'') :
    run.Reaches (answers ++ more) final (found ++ others) run'' where
  mode := second.mode.trans first.mode
  packetId := by rw [second.packetId, first.packetId, Answer.nextId_append]
  replies := by
    rw [second.replies, first.replies, first.packetId, Answer.packets_append, List.append_assoc]
  sessions := second.sessions
  positions := by rw [second.positions, first.positions, List.append_assoc]

/-- How a part of a unit comes out: with all it calls for, or with a fatal error. -/
inductive Takes (run : Run δ μ) (answers : List Answer) (sessions : Sessions δ)
    (found : List Position) : Option Error × Run δ μ → Prop where
  | through {run' : Run δ μ} (h : run.Reaches answers sessions found run') :
    Takes run answers sessions found (none, run')
  | fatal {error : Error} {run' : Run δ μ} (h : error.isFatal = true) :
    Takes run answers sessions found (some error, run')

theorem Reaches.takes {run run' : Run δ μ} {answers more : List Answer}
    {sessions final : Sessions δ} {found others : List Position} {result : Option Error × Run δ μ}
    (first : run.Reaches answers sessions found run')
    (second : run'.Takes more final others result) :
    run.Takes (answers ++ more) final (found ++ others) result := by
  cases second with
  | through h => exact .through (first.trans h)
  | fatal h => exact .fatal h

/-! ### One step each -/

theorem reaches_acknowledge (run : Run δ μ) (packetId : Nat) (record : Record) :
    run.Reaches [.record packetId record.service record.number] run.sessions []
      (run.acknowledge packetId record) where
  mode := rfl
  packetId := rfl
  replies := rfl
  sessions := rfl
  positions := (List.append_nil _).symm

theorem reaches_confirmIdentity (run : Run δ μ) (service : Nat) :
    run.Reaches [.identity service] run.sessions [] (run.confirmIdentity service) where
  mode := rfl
  packetId := rfl
  replies := rfl
  sessions := rfl
  positions := (List.append_nil _).symm

theorem reaches_emit (run : Run δ μ) (position : Position) (session : Session) :
    run.Reaches [] run.sessions [{ position with deviceId := session.deviceId }]
      (run.emit position session) where
  mode := rfl
  packetId := rfl
  replies := (List.append_nil _).symm
  sessions := rfl
  positions := rfl

variable [Directory δ]

theorem Reaches.reliable {run run' : Run δ μ} {answers : List Answer} {sessions : Sessions δ}
    {found : List Position} (reached : run.Reaches answers sessions found run')
    (h : Directory.Reliable sessions.2) : Directory.Reliable run'.sessions.2 := by
  rwa [reached.sessions]

theorem reaches_resolve (run : Run δ μ) (connection : ConnectionId) (uniqueId : String) :
    run.Reaches [] (run.sessions.named run.decoder.mode connection uniqueId) []
      (run.resolve connection uniqueId).2 where
  mode := rfl
  packetId := rfl
  replies := (List.append_nil _).symm
  sessions := rfl
  positions := (List.append_nil _).symm

/-- Over a directory that always answers, an identifier is resolved. -/
theorem exists_resolve_eq {run : Run δ μ} (reliable : Directory.Reliable run.sessions.2)
    (connection : ConnectionId) (uniqueId : String) :
    ∃ found run', run.resolve connection uniqueId = (.ok found, run') ∧
      (run.sessions.1.resolve run.sessions.2 run.decoder.mode connection (some uniqueId)).1 =
        .ok found ∧
      run.Reaches [] (run.sessions.named run.decoder.mode connection uniqueId) [] run' := by
  obtain ⟨found, answer⟩ :=
    Registry.exists_resolve_eq_ok (r := run.sessions.1) reliable run.decoder.mode
      connection uniqueId
  refine ⟨found, (run.resolve connection uniqueId).2, ?_, answer, run.reaches_resolve _ _⟩
  rw [← answer]
  rfl

/-- Over a directory that always answers, identifiers are all resolved. -/
theorem reaches_resolveAll {run : Run δ μ} (reliable : Directory.Reliable run.sessions.2)
    (mode : run.decoder.mode = .byConnection) (connection : ConnectionId)
    (uniqueIds : List String) :
    ∃ run', run.resolveAll connection uniqueIds = (none, run') ∧
      run.Reaches [] (run.sessions.bound connection uniqueIds) [] run' := by
  induction uniqueIds generalizing run with
  | nil => exact ⟨run, rfl, .refl run⟩
  | cons uniqueId uniqueIds ih =>
    obtain ⟨found, between, resolved, -, first⟩ := exists_resolve_eq reliable connection uniqueId
    rw [mode] at first
    have reliable' := first.reliable
      (Registry.reliable_resolve reliable .byConnection connection uniqueId)
    obtain ⟨run', others, rest⟩ := ih reliable' (first.mode.trans mode)
    refine ⟨run', ?_, ?_⟩
    · rw [resolveAll, resolved]
      exact others
    · rw [first.sessions] at rest
      exact first.trans rest

/-! ### Sub-records -/

/-- A terminal's identity that cannot be read is an error and does nothing. -/
theorem identify_of_malformed {sub : SubRecord} (kind : sub.kind = SubRecord.terminalIdentity)
    (malformed : sub.isWellFormed = false) (run : Run δ μ) (connection : ConnectionId)
    (service : Nat) : ∃ error, run.identify connection service sub.data = (some error, run) := by
  obtain ⟨fault, fails⟩ := SubRecord.identifiers_of_malformed kind malformed
  rw [identify, fails]
  split
  · exact ⟨_, rfl⟩
  · exact ⟨_, rfl⟩

/-- A terminal's identity is answered once its identifiers are resolved. -/
theorem reaches_identify {run run' : Run δ μ} {connection : ConnectionId} {service : Nat}
    {sub : SubRecord} {error : Option Error} (reliable : Directory.Reliable run.sessions.2)
    (kind : sub.kind = SubRecord.terminalIdentity) (wellFormed : sub.isWellFormed = true)
    (taken : run.identify connection service sub.data = (error, run'))
    (calm : ∀ e, error = some e → e.isFatal = false) :
    error = none ∧
      run.Reaches [.identity service] (run.sessions.bound connection sub.identifiers) [] run' := by
  rw [identify, SubRecord.identifiers_of_wellFormed kind wellFormed] at taken
  cases mode : run.decoder.mode with
  | byIdentifier =>
    -- The decoder was set up for objects; that is fatal, so the run was not calm.
    rw [if_pos mode] at taken
    cases taken
    exact absurd (calm _ rfl) (by decide)
  | byConnection =>
    rw [if_neg (by rw [mode]; decide)] at taken
    obtain ⟨between, resolved, bound⟩ := reaches_resolveAll reliable mode connection sub.identifiers
    simp only [resolved] at taken
    cases taken
    have confirmed := between.reaches_confirmIdentity service
    rw [bound.sessions] at confirmed
    exact ⟨rfl, bound.trans confirmed⟩

/-- Sub-records that end in no fatal error: the identities before the first that cannot be read are
answered, and there is a position if all could be read. -/
theorem reaches_takeSubRecords {run run' : Run δ μ} {connection : ConnectionId} {service : Nat}
    {fault : Option ProtocolFault} {subs : List SubRecord} {position : Position}
    {result : Except Error Position} (reliable : Directory.Reliable run.sessions.2)
    (taken : run.takeSubRecords connection service fault subs position = (result, run'))
    (calm : ∀ e, result = .error e → e.isFatal = false) :
    run.Reaches (Record.identityAnswers service subs)
        (run.sessions.bound connection ((SubRecord.identities subs).flatMap SubRecord.identifiers))
          []
        run' ∧
      result.toOption =
        if fault.isNone && subs.all SubRecord.isWellFormed then
          some (subs.foldl SubRecord.report position)
        else none := by
  induction subs generalizing run position with
  | nil =>
    cases fault with
    | none =>
      rw [takeSubRecords] at taken
      cases taken
      exact ⟨.refl _, rfl⟩
    | some fault =>
      rw [takeSubRecords] at taken
      cases taken
      exact ⟨.refl _, rfl⟩
  | cons sub subs ih =>
    rw [takeSubRecords] at taken
    cases wellFormed : sub.isWellFormed with
    | false =>
      -- An error of one kind or the other, and nothing was done.
      have stopped : (∃ e, result = .error e) ∧ run' = run := by
        by_cases kind : sub.kind = SubRecord.terminalIdentity
        · obtain ⟨e, fails⟩ := identify_of_malformed kind wellFormed run connection service
          rw [if_pos kind, fails] at taken
          cases taken
          exact ⟨⟨_, rfl⟩, rfl⟩
        · obtain ⟨e, fails⟩ := SubRecord.apply_of_malformed kind wellFormed position
          rw [if_neg kind, fails] at taken
          cases taken
          exact ⟨⟨_, rfl⟩, rfl⟩
      obtain ⟨⟨e, rfl⟩, rfl⟩ := stopped
      rw [Record.identityAnswers, SubRecord.identities_cons_of_malformed wellFormed, List.all_cons,
        wellFormed, Bool.false_and, Bool.and_false]
      exact ⟨.refl _, rfl⟩
    | true =>
      rw [List.all_cons, wellFormed, Bool.true_and, List.foldl_cons]
      by_cases kind : sub.kind = SubRecord.terminalIdentity
      · rw [if_pos kind] at taken
        cases identified : run.identify connection service sub.data with
        | mk error between =>
          rw [identified] at taken
          have calm' : ∀ e, error = some e → e.isFatal = false := by
            rintro e rfl
            cases taken
            exact calm e rfl
          obtain ⟨rfl, first⟩ := reaches_identify reliable kind wellFormed identified calm'
          obtain ⟨rest, outcome⟩ := ih (first.reliable (Sessions.reliable_bound reliable _)) taken
          rw [first.sessions, ← Sessions.bound_append] at rest
          rw [Record.identityAnswers, SubRecord.identities_cons_of_identity kind wellFormed,
            List.map_cons, List.flatMap_cons, SubRecord.report, if_pos kind]
          exact ⟨first.trans rest, outcome⟩
      · rw [if_neg kind, SubRecord.apply_of_wellFormed kind wellFormed] at taken
        rw [Record.identityAnswers, SubRecord.identities_cons_of_other kind wellFormed]
        exact ih reliable taken

/-! ### Records -/

/-- The session of a report's device is looked for as its turn says. -/
theorem reaches_sessionFor {run : Run δ μ} {turn : Turn δ} {connection : ConnectionId}
    (reliable : Directory.Reliable run.sessions.2) (sessions : turn.sessions = run.sessions)
    (report : turn.isReport = true) :
    ∃ found run', run.sessionFor connection turn.objectId = (.ok found, run') ∧
      found.map (·.deviceId) = turn.device? run.decoder.mode connection ∧
        run.Reaches [] (turn.finish run.decoder.mode connection) [] run' := by
  cases mode : run.decoder.mode with
  | byConnection =>
    refine ⟨run.services.registry.sessionOf? connection, run, ?_, ?_, ?_⟩
    · simp only [sessionFor, mode]
    · rw [Turn.device?, sessions]
      rfl
    · simp only [Turn.finish, sessions]
      exact .refl run
  | byIdentifier =>
    simp only [sessionFor, mode, Turn.device?, Turn.finish, report, if_true]
    rw [← Turn.object?]
    cases turn.object? with
    | none =>
      refine ⟨none, run, rfl, rfl, ?_⟩
      rw [sessions]
      exact .refl run
    | some id =>
      obtain ⟨found, run', resolved, answer, reached⟩ :=
        exists_resolve_eq reliable connection (toString id)
      rw [mode] at answer reached
      refine ⟨found, run', resolved, ?_, ?_⟩
      · rw [sessions]
        exact Registry.deviceId_of_resolve answer
      · rwa [sessions]

/-- A record whose sub-records were taken yields the position of its turn. -/
theorem takes_reportPosition {run : Run δ μ} {turn : Turn δ}
    (reliable : Directory.Reliable run.sessions.2) (sessions : turn.sessions = run.sessions)
    (wellFormed : turn.record.isWellFormed = true) (connection : ConnectionId) :
    run.Takes [] (turn.finish run.decoder.mode connection)
      (turn.position? run.decoder.mode connection).toList
      (run.reportPosition connection turn.objectId turn.record turn.record.report) := by
  have isReport : turn.isReport =
      (turn.record.service == Record.teledataService && turn.record.report.isFix) := by
    rw [Turn.isReport, wellFormed, Record.isFix_report wellFormed, Bool.and_true]
  rw [reportPosition]
  cases report : turn.isReport with
  | false =>
    rw [if_neg (by simpa [report] using isReport.symm), Turn.finish_of_other report,
      Turn.position?_of_other report, sessions]
    exact .through (.refl run)
  | true =>
    rw [if_pos (by simpa [report] using isReport.symm)]
    obtain ⟨found, run', looked, device, reached⟩ := reaches_sessionFor reliable sessions report
    rw [looked, Turn.position?, report, if_pos rfl, ← device]
    cases found with
    | none => exact .through reached
    | some session =>
      have emitted := run'.reaches_emit turn.record.report session
      rw [reached.sessions] at emitted
      exact .through (reached.trans emitted)

/-- A record is acknowledged and has its turn, unless it ends the unit. -/
theorem takes_takeRecord {run : Run δ μ} (reliable : Directory.Reliable run.sessions.2)
    (connection : ConnectionId) (packetId : Nat) (objectId : Option Nat) (record : Record) :
    let turn := Turn.start connection run.sessions (objectId, record)
    run.Takes (record.answers packetId) (turn.finish run.decoder.mode connection)
      (turn.position? run.decoder.mode connection).toList
      (run.takeRecord connection packetId objectId record) := by
  intro turn
  have acknowledged := run.reaches_acknowledge packetId record
  unfold takeRecord
  generalize run.acknowledge packetId record = acknowledging at acknowledged ⊢
  -- What the sub-records come to, if they end in no fatal error. Both branches below need it.
  have subRecords {result : Except Error Position} {run' : Run δ μ}
      (taken : acknowledging.takeSubRecords connection record.service record.subRecords.2
        record.subRecords.1 (.blank protocolName) = (result, run'))
      (calm : ∀ e, result = .error e → e.isFatal = false) :
      run.Reaches (record.answers packetId) turn.sessions [] run' ∧
        result.toOption = if record.isWellFormed then some record.report else none := by
    obtain ⟨reached, outcome⟩ := reaches_takeSubRecords (acknowledged.reliable reliable) taken calm
    rw [acknowledged.sessions] at reached
    exact ⟨acknowledged.trans reached, outcome⟩
  simp only
  split
  · rename_i e run' taken
    by_cases fatal : e.isFatal = true
    · rw [if_pos fatal]
      exact .fatal fatal
    · rw [if_neg fatal]
      have calm : ∀ e', Except.error e = (.error e' : Except Error Position) →
          e'.isFatal = false := by
        rintro _ ⟨⟩
        exact Bool.eq_false_iff.2 fatal
      obtain ⟨reached, outcome⟩ := subRecords taken calm
      -- A record that can be read would have come to a position.
      cases wellFormed : record.isWellFormed with
      | true =>
        rw [wellFormed] at outcome
        cases outcome
      | false =>
        have other : turn.isReport = false := Turn.isReport_of_malformed wellFormed
        rw [Turn.finish_of_other other, Turn.position?_of_other other]
        exact .through reached
  · rename_i position run' taken
    obtain ⟨reached, outcome⟩ := subRecords taken (by rintro _ ⟨⟩)
    cases wellFormed : record.isWellFormed with
    | false =>
      rw [wellFormed] at outcome
      cases outcome
    | true =>
      rw [wellFormed] at outcome
      injection outcome with outcome
      have reliable' := reached.reliable (Sessions.reliable_bound reliable _)
      have reported := takes_reportPosition reliable' reached.sessions.symm wellFormed connection
      rw [reached.mode] at reported
      have all := reached.takes reported
      rw [List.append_nil, List.nil_append] at all
      rw [outcome]
      exact all

/-- The records of a packet have their turns, one after the other. -/
theorem takes_takeRecords {run : Run δ μ} (reliable : Directory.Reliable run.sessions.2)
    (connection : ConnectionId) (packetId : Nat) (objectId : Option Nat) (records : List Record) :
    run.Takes (records.flatMap (Record.answers packetId))
      (Turn.outcome run.decoder.mode connection run.sessions (Record.withObjects objectId records))
      (Turn.positions run.decoder.mode connection run.sessions
        (Record.withObjects objectId records))
      (run.takeRecords connection packetId objectId records) := by
  induction records generalizing run objectId with
  | nil => exact .through (.refl run)
  | cons record rest ih =>
    rw [takeRecords]
    have first := takes_takeRecord reliable connection packetId
      (record.objectId.orElse fun _ => objectId) record
    generalize run.takeRecord connection packetId _ record = outcome at first ⊢
    cases first with
    | fatal h => exact .fatal h
    | @through run' reached =>
      have others := ih (reached.reliable (Turn.reliable_finish reliable _))
        (record.objectId.orElse fun _ => objectId)
      rw [reached.sessions, reached.mode] at others
      rw [List.flatMap_cons, Record.withObjects, Turn.positions_cons]
      exact reached.takes others

/-- The records of a packet have their turns unless it is an acknowledgment. -/
theorem takes_takePacket {run : Run δ μ} (reliable : Directory.Reliable run.sessions.2)
    (connection : ConnectionId) (packet : Packet) :
    run.Takes packet.answers
      (Turn.outcome run.decoder.mode connection run.sessions packet.subjects)
      (Turn.positions run.decoder.mode connection run.sessions packet.subjects)
      (run.takePacket connection packet) := by
  unfold takePacket Packet.answers Packet.subjects
  by_cases acknowledgment : packet.packetType = Packet.typeResponse
  · simp only [acknowledgment, if_true]
    exact .through (.refl run)
  · simp only [acknowledgment, if_false]
    have records := takes_takeRecords reliable connection packet.id none packet.records.1
    generalize run.takeRecords connection packet.id none packet.records.1 = outcome at records ⊢
    cases records with
    | through h => exact .through h
    | fatal h =>
      rw [Option.filter_some_pos h]
      exact .fatal h

/-- The packets of a unit have theirs, one after the other. -/
theorem takes_takePackets {run : Run δ μ} (reliable : Directory.Reliable run.sessions.2)
    (connection : ConnectionId) (packets : List Packet) :
    run.Takes (packets.flatMap Packet.answers)
      (Turn.outcome run.decoder.mode connection run.sessions (packets.flatMap Packet.subjects))
      (Turn.positions run.decoder.mode connection run.sessions (packets.flatMap Packet.subjects))
      (run.takePackets connection packets) := by
  induction packets generalizing run with
  | nil => exact .through (.refl run)
  | cons packet rest ih =>
    rw [takePackets]
    have first := takes_takePacket reliable connection packet
    generalize run.takePacket connection packet = outcome at first ⊢
    cases first with
    | fatal h => exact .fatal h
    | @through run' reached =>
      have others := ih (reached.reliable (Turn.reliable_outcome reliable _))
      rw [reached.sessions, reached.mode] at others
      rw [List.flatMap_cons, List.flatMap_cons, Turn.outcome_append, Turn.positions_append]
      exact reached.takes others

end TrackerGateway.Egts.Decoder.Run

namespace TrackerGateway.Egts.Decoder

variable {δ μ : Type} [Directory δ]

/-- A unit that decodes does what its packets call for. -/
theorem decode_reaches {decoder : Decoder} {services : Services δ μ} {connection : ConnectionId}
    {bytes : Bytes} (reliable : Directory.Reliable services.directory)
    (ok : (decoder.decode services connection bytes).1.isOk = true) :
    let outcome := decoder.decode services connection bytes
    let packets := (Packet.readAll bytes).1
    let subjects := packets.flatMap Packet.subjects
    let sessions : Sessions δ := (services.registry, services.directory)
    ∃ positions, outcome.1 = .ok positions ∧
      Run.Reaches ⟨decoder, services, []⟩ (packets.flatMap Packet.answers)
        (Turn.outcome decoder.mode connection sessions subjects)
        (Turn.positions decoder.mode connection sessions subjects)
        ⟨outcome.2.1, outcome.2.2, positions⟩ := by
  intro outcome packets subjects sessions
  let run : Run δ μ := ⟨decoder, services, []⟩
  have taken : run.Takes _ _ _ _ := run.takes_takePackets reliable connection packets
  simp only [outcome]
  simp only [decode] at ok ⊢
  generalize Run.takePackets ⟨decoder, services, []⟩ connection packets = result at taken ok ⊢
  cases taken with
  | fatal h => cases ok
  | @through run' reached =>
    cases fault : (Packet.readAll bytes).2 with
    | some e =>
      rw [fault] at ok
      cases ok
    | none => exact ⟨run'.positions, rfl, reached⟩

end TrackerGateway.Egts.Decoder
