import TrackerGateway.Egts.Decoder

/-!
# Two runs side by side

A decoder learns from its services in one way only: it names an identifier and hears which device
that is, or looks at the device of its connection. Two runs that hear the same devices
(`Simulation`) do the same with the same packets: they fail alike, and what related them before
relates them after (`Run.matches_takePackets`). What is kept by one run is the case of a run
beside itself (`Lasting`).
-/

namespace TrackerGateway.Egts.Decoder.Run

variable {δ μ δ' μ' : Type}

/-- Whether two look-ups come to the same: the same failure, no session, or sessions of one
device. -/
inductive Same : Except Error (Option Session) → Except Error (Option Session) → Prop where
  | failed (error : Error) : Same (.error error) (.error error)
  | unknown : Same (.ok none) (.ok none)
  | found {session session' : Session} (device : session'.deviceId = session.deviceId) :
    Same (.ok (some session)) (.ok (some session'))

theorem Same.refl : ∀ found, Same found found
  | .error error => .failed error
  | .ok none => .unknown
  | .ok (some _) => .found rfl

theorem Same.of_device {found found' : Option Session}
    (h : found'.map (·.deviceId) = found.map (·.deviceId)) : Same (.ok found) (.ok found') := by
  cases found with
  | none =>
    rw [Option.map_eq_none_iff.1 h]
    exact .unknown
  | some session =>
    obtain ⟨session', rfl, device⟩ := Option.map_eq_some_iff.1 h
    exact .found device

/-- Whether two outcomes are the same and leave related runs. -/
structure Matches {α : Type} (related : Run δ μ → Run δ' μ' → Prop)
    (outcome : α × Run δ μ) (outcome' : α × Run δ' μ') : Prop where
  result : outcome'.1 = outcome.1
  run : related outcome.2 outcome'.2

/-- A run that puts a position out, beside itself. -/
theorem emitted_beside {keeps : Run δ μ → Prop}
    (emit : ∀ run position session, keeps run → keeps (run.emit position session))
    {run run' : Run δ μ} (position : Position) {session session' : Session}
    (device : session'.deviceId = session.deviceId) (h : run' = run ∧ keeps run) :
    run'.emit position session' = run.emit position session ∧
        keeps (run.emit position session) := by
  obtain ⟨rfl, kept⟩ := h
  refine ⟨?_, emit _ _ _ kept⟩
  simp only [Run.emit, device]

theorem acknowledged_beside {keeps : Run δ μ → Prop}
    (acknowledge : ∀ run packetId record, keeps run → keeps (run.acknowledge packetId record))
    {run run' : Run δ μ} (packetId : Nat) (record : Record) (h : run' = run ∧ keeps run) :
    run'.acknowledge packetId record = run.acknowledge packetId record ∧
      keeps (run.acknowledge packetId record) := by
  obtain ⟨rfl, kept⟩ := h
  exact ⟨rfl, acknowledge _ _ _ kept⟩

variable [Directory δ] [Directory δ']

/-- Related runs hear the same of identifiers and of their connection, and answering a terminal's
identity keeps them related. -/
structure Simulation (connection : ConnectionId) (related : Run δ μ → Run δ' μ' → Prop) : Prop where
  mode : ∀ {run run'}, related run run' → run'.decoder.mode = run.decoder.mode
  session : ∀ {run run'}, related run run' →
    Same (.ok (run.services.registry.sessionOf? connection))
      (.ok (run'.services.registry.sessionOf? connection))
  resolve : ∀ {run run'}, related run run' → ∀ uniqueId,
    Same (run.resolve connection uniqueId).1 (run'.resolve connection uniqueId).1 ∧
      related (run.resolve connection uniqueId).2 (run'.resolve connection uniqueId).2
  confirm : ∀ {run run'}, related run run' → ∀ service,
    related (run.confirmIdentity service) (run'.confirmIdentity service)

section

variable {connection : ConnectionId} {related : Run δ μ → Run δ' μ' → Prop} {run : Run δ μ}
  {run' : Run δ' μ'} (simulation : Simulation connection related) (h : related run run')
include simulation h

theorem matches_resolveAll (uniqueIds : List String) :
    Matches related (run.resolveAll connection uniqueIds)
        (run'.resolveAll connection uniqueIds) := by
  induction uniqueIds generalizing run run' with
  | nil => exact ⟨rfl, h⟩
  | cons uniqueId uniqueIds ih =>
    obtain ⟨same, after⟩ := simulation.resolve h uniqueId
    rw [resolveAll, resolveAll]
    generalize run.resolve connection uniqueId = outcome at same after ⊢
    generalize run'.resolve connection uniqueId = outcome' at same after ⊢
    obtain ⟨result, next⟩ := outcome
    obtain ⟨result', next'⟩ := outcome'
    cases same with
    | failed error => exact ⟨rfl, after⟩
    | unknown => exact ih after
    | found => exact ih after

theorem matches_identify (service : Nat) (data : Bytes) :
    Matches related (run.identify connection service data)
      (run'.identify connection service data) := by
  unfold identify
  rw [simulation.mode h]
  split
  · exact ⟨rfl, h⟩
  · split
    · exact ⟨rfl, h⟩
    · rename_i identifiers read
      obtain ⟨result, after⟩ := matches_resolveAll simulation h identifiers
      generalize run.resolveAll connection identifiers = outcome at result after ⊢
      generalize run'.resolveAll connection identifiers = outcome' at result after ⊢
      obtain ⟨error, next⟩ := outcome
      obtain ⟨_, next'⟩ := outcome'
      cases result
      cases error with
      | none => exact ⟨rfl, simulation.confirm after service⟩
      | some error => exact ⟨rfl, after⟩

theorem matches_takeSubRecords (service : Nat) (fault : Option ProtocolFault)
    (subs : List SubRecord) (position : Position) :
    Matches related (run.takeSubRecords connection service fault subs position)
      (run'.takeSubRecords connection service fault subs position) := by
  induction subs generalizing run run' position with
  | nil => cases fault <;> exact ⟨rfl, h⟩
  | cons sub subs ih =>
    rw [takeSubRecords, takeSubRecords]
    by_cases kind : sub.kind = SubRecord.terminalIdentity
    · rw [if_pos kind, if_pos kind]
      obtain ⟨result, after⟩ := matches_identify simulation h service sub.data
      generalize run.identify connection service sub.data = outcome at result after ⊢
      generalize run'.identify connection service sub.data = outcome' at result after ⊢
      obtain ⟨error, next⟩ := outcome
      obtain ⟨_, next'⟩ := outcome'
      cases result
      cases error with
      | none => exact ih after position
      | some error => exact ⟨rfl, after⟩
    · rw [if_neg kind, if_neg kind]
      split
      · exact ⟨rfl, h⟩
      · exact ih h _

theorem same_sessionFor (objectId : Option Nat) :
    Same (run.sessionFor connection objectId).1 (run'.sessionFor connection objectId).1 ∧
      related (run.sessionFor connection objectId).2 (run'.sessionFor connection objectId).2 := by
  unfold sessionFor
  rw [simulation.mode h]
  split
  · exact ⟨simulation.session h, h⟩
  · split
    · exact simulation.resolve h _
    · exact ⟨.unknown, h⟩

section

variable (emit : ∀ {run run'} position {session session' : Session},
  session'.deviceId = session.deviceId → related run run' →
    related (run.emit position session) (run'.emit position session'))
include emit

theorem matches_reportPosition (objectId : Option Nat) (record : Record) (position : Position) :
    Matches related (run.reportPosition connection objectId record position)
      (run'.reportPosition connection objectId record position) := by
  unfold reportPosition
  split
  · obtain ⟨same, after⟩ := same_sessionFor simulation h objectId
    generalize run.sessionFor connection objectId = outcome at same after ⊢
    generalize run'.sessionFor connection objectId = outcome' at same after ⊢
    obtain ⟨result, next⟩ := outcome
    obtain ⟨result', next'⟩ := outcome'
    cases same with
    | failed error => exact ⟨rfl, after⟩
    | unknown => exact ⟨rfl, after⟩
    | found device => exact ⟨rfl, emit position device after⟩
  · exact ⟨rfl, h⟩

variable (acknowledge : ∀ {run run'} packetId record, related run run' →
  related (run.acknowledge packetId record) (run'.acknowledge packetId record))
include acknowledge

theorem matches_takeRecord (packetId : Nat) (objectId : Option Nat) (record : Record) :
    Matches related (run.takeRecord connection packetId objectId record)
      (run'.takeRecord connection packetId objectId record) := by
  obtain ⟨result, after⟩ := matches_takeSubRecords simulation (acknowledge packetId record h)
    record.service record.subRecords.2 record.subRecords.1 (.blank protocolName)
  unfold takeRecord
  simp only
  generalize (run.acknowledge packetId record).takeSubRecords connection record.service
    record.subRecords.2 record.subRecords.1 (.blank protocolName) = outcome at result after ⊢
  generalize (run'.acknowledge packetId record).takeSubRecords connection record.service
    record.subRecords.2 record.subRecords.1 (.blank protocolName) = outcome' at result after ⊢
  obtain ⟨taken, next⟩ := outcome
  obtain ⟨_, next'⟩ := outcome'
  cases result
  cases taken with
  | error error => exact ⟨rfl, after⟩
  | ok position => exact matches_reportPosition simulation after emit objectId record position

theorem matches_takeRecords (packetId : Nat) (objectId : Option Nat) (records : List Record) :
    Matches related (run.takeRecords connection packetId objectId records)
      (run'.takeRecords connection packetId objectId records) := by
  induction records generalizing run run' objectId with
  | nil => exact ⟨rfl, h⟩
  | cons record rest ih =>
    rw [takeRecords, takeRecords]
    obtain ⟨result, after⟩ := matches_takeRecord simulation h emit acknowledge packetId
      (record.objectId.orElse fun _ => objectId) record
    generalize run.takeRecord connection packetId _ record = outcome at result after ⊢
    generalize run'.takeRecord connection packetId _ record = outcome' at result after ⊢
    obtain ⟨error, next⟩ := outcome
    obtain ⟨_, next'⟩ := outcome'
    cases result
    cases error with
    | none => exact ih after _
    | some error => exact ⟨rfl, after⟩

theorem matches_takePacket (packet : Packet) :
    Matches related (run.takePacket connection packet) (run'.takePacket connection packet) := by
  unfold takePacket
  split
  · exact ⟨rfl, h⟩
  · obtain ⟨result, after⟩ := matches_takeRecords simulation h emit acknowledge packet.id none
      packet.records.1
    exact ⟨congrArg (Option.filter Error.isFatal) result, after⟩

/-- Runs that hear the same do the same with packets. -/
theorem matches_takePackets (packets : List Packet) :
    Matches related (run.takePackets connection packets) (run'.takePackets connection packets) := by
  induction packets generalizing run run' with
  | nil => exact ⟨rfl, h⟩
  | cons packet rest ih =>
    rw [takePackets, takePackets]
    obtain ⟨result, after⟩ := matches_takePacket simulation h emit acknowledge packet
    generalize run.takePacket connection packet = outcome at result after ⊢
    generalize run'.takePacket connection packet = outcome' at result after ⊢
    obtain ⟨error, next⟩ := outcome
    obtain ⟨_, next'⟩ := outcome'
    cases result
    cases error with
    | none => exact ih after
    | some error => exact ⟨rfl, after⟩

end

end

/-! ### One run -/

/-- Whether runs keep a property when they name an identifier and when they answer a terminal. -/
structure Lasting (connection : ConnectionId) (keeps : Run δ μ → Prop) : Prop where
  resolve : ∀ run uniqueId, keeps run → keeps (run.resolve connection uniqueId).2
  confirm : ∀ run service, keeps run → keeps (run.confirmIdentity service)

/-- A run that keeps a property, beside itself. -/
theorem Lasting.simulation {connection : ConnectionId} {keeps : Run δ μ → Prop}
    (lasting : Lasting connection keeps) :
    Simulation connection fun run run' : Run δ μ => run' = run ∧ keeps run where
  mode := by
    rintro _ _ ⟨rfl, h⟩
    rfl
  session := by
    rintro _ _ ⟨rfl, h⟩
    exact .refl _
  resolve := by
    rintro _ _ ⟨rfl, h⟩ uniqueId
    exact ⟨.refl _, rfl, lasting.resolve _ uniqueId h⟩
  confirm := by
    rintro _ _ ⟨rfl, h⟩ service
    exact ⟨rfl, lasting.confirm _ service h⟩

section

variable {connection : ConnectionId} {keeps : Run δ μ → Prop} {run : Run δ μ}
  (lasting : Lasting connection keeps) (h : keeps run)
include lasting h

theorem keeps_identify (service : Nat) (data : Bytes) :
    keeps (run.identify connection service data).2 :=
  (matches_identify lasting.simulation ⟨rfl, h⟩ service data).run.2

theorem keeps_takeSubRecords (service : Nat) (fault : Option ProtocolFault) (subs : List SubRecord)
    (position : Position) :
    keeps (run.takeSubRecords connection service fault subs position).2 :=
  (matches_takeSubRecords lasting.simulation ⟨rfl, h⟩ service fault subs position).run.2

theorem keeps_sessionFor (objectId : Option Nat) : keeps (run.sessionFor connection objectId).2 :=
  (same_sessionFor lasting.simulation ⟨rfl, h⟩ objectId).2.2

variable (emit : ∀ run position session, keeps run → keeps (run.emit position session))
  (acknowledge : ∀ run packetId record, keeps run → keeps (run.acknowledge packetId record))
include emit acknowledge

theorem keeps_takeRecord (packetId : Nat) (objectId : Option Nat) (record : Record) :
    keeps (run.takeRecord connection packetId objectId record).2 :=
  (matches_takeRecord lasting.simulation ⟨rfl, h⟩ (emitted_beside emit)
    (acknowledged_beside acknowledge) packetId objectId record).run.2

theorem keeps_takePackets (packets : List Packet) :
    keeps (run.takePackets connection packets).2 :=
  (matches_takePackets lasting.simulation ⟨rfl, h⟩ (emitted_beside emit)
    (acknowledged_beside acknowledge) packets).run.2

end

end TrackerGateway.Egts.Decoder.Run
