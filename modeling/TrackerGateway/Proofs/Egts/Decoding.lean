import TrackerGateway.Proofs.Egts.Course

/-!
# What comes of a unit that decodes

Every record of every packet that is no acknowledgment is acknowledged, and the identities in it
are answered (`replies_of_decode`). Positions come of the telemetry records that can be read, say
where the device was, and are about a device that is found: one of the connection's session, or
one that the registry remembers or the directory knows when it is asked (`positions_of_decode`).
-/

namespace TrackerGateway

namespace Egts

/-- An object has a device if it is not that of number 0 and the sessions find one. -/
theorem Turn.isSome_device?_iff {δ : Type} [Directory δ] {turn : Turn δ}
    {connection : ConnectionId} :
    (turn.device? .byIdentifier connection).isSome = true ↔
      ∃ id, turn.objectId = some id ∧ id ≠ 0 ∧ turn.sessions.Finds (toString id) := by
  rw [Turn.device?, Turn.object?]
  cases turn.objectId with
  | none => simp
  | some id =>
    by_cases zero : id = 0
    · simp [zero]
    · rw [Option.filter_some_pos (by simpa using zero)]
      refine Registry.isSome_numberOf?_iff.trans ⟨fun finds => ⟨id, rfl, zero, finds⟩, ?_⟩
      rintro ⟨_, ⟨⟩, -, finds⟩
      exact finds

/-- Over a directory that does not change what it knows, the sessions find at each turn what they
found before the first one. -/
theorem Turn.finds_iff_of_settled {δ : Type} [Directory δ] {s : Sessions δ}
    (settled : Directory.Settled s.2) {mode : SessionMode} {connection : ConnectionId}
    {subjects : List (Option Nat × Record)} {turn : Turn δ}
    (member : turn ∈ Turn.course mode connection s subjects) (uniqueId : String) :
    turn.sessions.Finds uniqueId ↔ s.Finds uniqueId := by
  have kept : Directory.Settled turn.sessions.2 ∧
      ∀ uniqueId, turn.sessions.Finds uniqueId ↔ s.Finds uniqueId := by
    refine Turn.forall_course
      (fun after => Directory.Settled after.2 ∧ ∀ uniqueId, after.Finds uniqueId ↔ s.Finds uniqueId)
      ?_ mode ⟨settled, fun _ => Iff.rfl⟩ subjects turn member
    rintro after mode uniqueId ⟨settled, same⟩
    exact ⟨Sessions.settled_named settled mode connection uniqueId,
      fun other => (Sessions.finds_named_iff settled).trans (same other)⟩
  exact kept.2 uniqueId

namespace Decoder

variable {δ μ : Type} [Directory δ]

/-- Over a directory that always answers, a unit that decodes is answered record by record: with the
acknowledgment of the record, and then with one result code for each identity in it that could be
read, up to the first sub-record that could not. -/
theorem replies_of_decode {decoder : Decoder} {services : Services δ μ} {connection : ConnectionId}
    {bytes : Bytes} (reliable : Directory.Reliable services.directory)
    (ok : (decoder.decode services connection bytes).1.isOk = true) :
    (decoder.decode services connection bytes).2.2.replies =
      services.replies ++
        Answer.packets decoder.packetId ((Packet.readAll bytes).1.flatMap Packet.answers) := by
  obtain ⟨positions, -, reached⟩ := decode_reaches reliable ok
  exact reached.replies

/-- A terminal with a number of 15 digits. -/
def sampleIdentity : Bytes :=
  SubRecord.build SubRecord.terminalIdentity
    ([77, 0, 0, 0, 2] ++ [49, 50, 51, 52, 53, 54, 55, 56, 57, 48, 49, 50, 51, 52, 53])

/-- A place, an hour after protocol time began. -/
def samplePlace : Bytes :=
  SubRecord.build SubRecord.positionData
    [16, 14, 0, 0, 0, 0, 0, 64, 0, 0, 0, 32, 1, 88, 2, 10, 1, 0, 0, 3, 5]

/-- What a gateway shares that knows one object and has not yet had a unit. -/
def sampleServices : Services (String → Lookup) Unit where
  registry := .empty
  directory uniqueId := if uniqueId = "3000" then .known ⟨8⟩ else .unknown
  media := ()
  replies := []

theorem reliable_sampleServices : Directory.Reliable sampleServices.directory := by
  refine Directory.reliable_answers fun uniqueId error => ?_
  simp only [sampleServices]
  split <;> simp

/-- An identity; an acknowledgment; a record whose sub-record is cut short, another identity, a
record that is itself cut short; and two octets that are too few for a packet. -/
def sampleAnnouncements : Bytes :=
  Packet.build 1 Packet.typeAppData (Record.build 5 Record.teledataService sampleIdentity) ++
    Packet.build 9 Packet.typeResponse [1, 0, 0] ++
    Packet.build 2 Packet.typeAppData
      (Record.build 6 Record.teledataService (sampleIdentity ++ [16, 40, 0]) ++
        Record.build 7 Record.authService sampleIdentity ++ [9, 0, 8, 0]) ++
    [1, 0]

theorem replies_of_sampleAnnouncements :
    ((start .byConnection).decode sampleServices ⟨1⟩ sampleAnnouncements).2.2.replies =
      Answer.packets 0 [.record 1 2 5, .identity 2, .record 2 2 6, .identity 2, .record 2 1 7,
        .identity 1] := by
  have ok : ((start .byConnection).decode sampleServices ⟨1⟩ sampleAnnouncements).1.isOk =
      true := by
    decide +kernel
  have answers : (Packet.readAll sampleAnnouncements).1.flatMap Packet.answers =
      [.record 1 2 5, .identity 2, .record 2 2 6, .identity 2, .record 2 1 7, .identity 1] := by
    decide +kernel
  rw [replies_of_decode reliable_sampleServices ok, answers]
  rfl

/-- Over a directory that always answers, a unit that decodes yields the positions of its turns,
in order. By identifier, a turn has a device if its object is not that of number 0 and is
remembered at that turn, or known to the directory when it is asked then. Over a directory that
does not change what it knows, that is settled before the unit. -/
theorem positions_of_decode {decoder : Decoder} {services : Services δ μ}
    {connection : ConnectionId} {bytes : Bytes} (reliable : Directory.Reliable services.directory)
    (ok : (decoder.decode services connection bytes).1.isOk = true) :
    let subjects := (Packet.readAll bytes).1.flatMap Packet.subjects
    let turns := Turn.course decoder.mode connection services.sessions subjects
    (decoder.decode services connection bytes).1 =
        .ok (turns.filterMap (Turn.position? decoder.mode connection)) ∧
      (∀ turn ∈ turns, (turn.device? .byIdentifier connection).isSome = true ↔
        ∃ id, turn.objectId = some id ∧ id ≠ 0 ∧ turn.sessions.Finds (toString id)) ∧
      (Directory.Settled services.directory →
        ∀ turn ∈ turns, (turn.device? .byIdentifier connection).isSome = true ↔
          ∃ id, turn.objectId = some id ∧ id ≠ 0 ∧ services.sessions.Finds (toString id)) := by
  intro subjects turns
  refine ⟨?_, fun turn _ => Turn.isSome_device?_iff, fun settled turn member => ?_⟩
  · obtain ⟨positions, outcome, reached⟩ := decode_reaches reliable ok
    rw [outcome]
    exact congrArg Except.ok reached.positions
  · rw [Turn.isSome_device?_iff]
    simp only [Turn.finds_iff_of_settled (s := services.sessions) settled member]

/-- Two records about an object, of which the second does not name it, and one of another service;
then, in a packet of its own, one that does not say what it is about. -/
def sampleReports : Bytes :=
  Packet.build 1 Packet.typeAppData
      ([24, 0, 1, 0, 1, 184, 11, 0, 0, 2, 2] ++ samplePlace ++
        Record.build 2 Record.teledataService samplePlace ++
        Record.build 3 Record.authService samplePlace) ++
    Packet.build 2 Packet.typeAppData (Record.build 4 Record.teledataService samplePlace)

theorem positions_of_sampleReports :
    (∃ positions,
      ((start .byIdentifier).decode sampleServices ⟨1⟩ sampleReports).1 = .ok positions ∧
        positions.map (·.deviceId) = [⟨8⟩, ⟨8⟩]) ∧
      ∀ turn ∈ Turn.course .byIdentifier ⟨1⟩ sampleServices.sessions
          ((Packet.readAll sampleReports).1.flatMap Packet.subjects),
        (turn.device? .byIdentifier ⟨1⟩).isSome = true ↔
          ∃ id, turn.objectId = some id ∧ id ≠ 0 ∧ sampleServices.sessions.Finds (toString id) := by
  have ok : ((start .byIdentifier).decode sampleServices ⟨1⟩ sampleReports).1.isOk = true := by
    decide +kernel
  obtain ⟨outcome, -, devices⟩ := positions_of_decode reliable_sampleServices ok
  constructor
  · exact ⟨_, outcome, by decide +kernel⟩
  · exact devices (Directory.settled_answers _)

/-- The gateway once it has had the reports, over a directory that knows no object any more. -/
def forgottenServices : Services (String → Lookup) Unit :=
  { ((start .byIdentifier).decode sampleServices ⟨1⟩ sampleReports).2.2 with
    directory := fun _ => .unknown }

/-- A gateway over a directory that gives numbers to identifiers it has not seen. -/
def registeringServices : Services DeviceList Unit where
  registry := .empty
  directory := .empty true
  media := ()
  replies := []

/-- A position does not need an object that the directory knows. The registry remembers one that the
directory has forgotten, and a directory may take one up that it does not have yet. -/
theorem positions_of_unknown_object :
    let devices (outcome : Except Error (List Position)) :=
      outcome.toOption.map fun positions => positions.map (·.deviceId)
    devices ((start .byIdentifier).decode forgottenServices ⟨1⟩ sampleReports).1 =
        some [⟨8⟩, ⟨8⟩] ∧
      Directory.Reliable forgottenServices.directory ∧
      (∀ uniqueId, ¬ Directory.Knows forgottenServices.directory uniqueId) ∧
      devices ((start .byIdentifier).decode registeringServices ⟨1⟩ sampleReports).1 =
        some [⟨1⟩, ⟨1⟩] ∧
      Table.get? registeringServices.directory.devices "3000" = none := by
  refine ⟨by decide +kernel, Directory.reliable_answers fun _ _ => nofun, fun _ known => ?_,
    by decide +kernel, rfl⟩
  obtain ⟨id, known⟩ := known
  cases known

end Decoder
end Egts
end TrackerGateway
