import TrackerGateway.Proofs.Egts.Decoding
import TrackerGateway.Proofs.Egts.Endurance
import TrackerGateway.Proofs.Session.Steady

/-!
# Whose positions a connection reports

A decoder that keeps sessions by connection has heard a list of terminal identities, over all
units so far (`Hearing`). The directory decides which of their identifiers have a number, and the
positions are those of the last that has one, whichever identity named it
(`positions_of_decode_afterUnits`). So an identity that the directory does not know leaves the
positions with the device before it.
-/

namespace TrackerGateway

section

variable {α β : Type}

/-- The value of the last of a list that has one. -/
def latest? (value? : α → Option β) (list : List α) : Option β := list.reverse.findSome? value?

theorem latest?_append (value? : α → Option β) (first second : List α) :
    latest? value? (first ++ second) = (latest? value? second).or (latest? value? first) := by
  rw [latest?, List.reverse_append, List.findSome?_append]
  rfl

theorem latest?_singleton (value? : α → Option β) (a : α) : latest? value? [a] = value? a := by
  rw [latest?, List.reverse_singleton, List.findSome?_singleton]

theorem exists_of_latest? {value? : α → Option β} {list : List α} {b : β}
    (h : latest? value? list = some b) : ∃ a ∈ list, value? a = some b := by
  obtain ⟨a, member, value⟩ := List.exists_of_findSome?_eq_some h
  exact ⟨a, List.mem_reverse.1 member, value⟩

theorem isSome_latest? {value? : α → Option β} {list : List α} :
    (latest? value? list).isSome = true ↔ ∃ a ∈ list, (value? a).isSome = true := by
  rw [latest?, List.findSome?_isSome_iff]
  simp only [List.mem_reverse]

end

namespace Sessions

variable {δ : Type} [Directory δ]

/-- Sessions that have no other numbers for identifiers and for the device of a connection than
those that their directory gives. -/
structure Hold (number? : String → Option DeviceId) (connection : ConnectionId) (s : Sessions δ) :
    Prop where
  gives : Directory.Gives s.2 number?
  identities : ∀ uniqueId id,
    Table.get? s.1.identities uniqueId = some (some id) → number? uniqueId = some id
  session : ∀ session,
    s.1.sessionOf? connection = some session → number? session.uniqueId = some session.deviceId

variable {number? : String → Option DeviceId} {connection : ConnectionId} {s : Sessions δ}

/-- The numbers of these sessions are those that the directory gives. -/
theorem Hold.steady (hold : s.Hold number? connection) :
    ∃ device, s.Steady ⟨number?, number?, device⟩ := by
  let device (uniqueId : String) :=
    ((Table.get? s.1.identifiers uniqueId).map (·.deviceId)).or (number? uniqueId)
  refine ⟨device, hold.gives, fun uniqueId => ?_, fun _ => rfl⟩
  cases known : s.1.identity? uniqueId with
  | none => rfl
  | some id =>
    show some id = number? uniqueId
    rw [hold.identities uniqueId id (Option.join_eq_some_iff.1 known)]

theorem Steady.hold {device : String → Option DeviceId}
    (steady : s.Steady ⟨number?, number?, device⟩)
    (session : ∀ session,
      s.1.sessionOf? connection = some session → number? session.uniqueId = some session.deviceId) :
    s.Hold number? connection := by
  refine ⟨steady.gives, fun uniqueId id kept => ?_, session⟩
  have number := steady.identity uniqueId
  rw [Registry.identity?, kept] at number
  exact number.symm

/-- An identifier with a number makes its device that of the connection, and no other does. -/
theorem Hold.named (hold : s.Hold number? connection) (uniqueId : String) :
    (s.named .byConnection connection uniqueId).Hold number? connection ∧
      (s.named .byConnection connection uniqueId).device? connection =
        (number? uniqueId).or (s.device? connection) := by
  obtain ⟨device, steady⟩ := hold.steady
  have after := steady.named .byConnection connection uniqueId
  obtain ⟨-, session⟩ := steady.resolve_byConnection connection uniqueId
  unfold settled at session
  cases kept : (s.1.sessionOf? connection).filter fun s => s.uniqueId == uniqueId with
  | some old =>
    obtain ⟨bound, same⟩ := Option.filter_eq_some_iff.1 kept
    have number := hold.session old bound
    rw [eq_of_beq same] at number
    rw [kept] at session
    refine ⟨after.hold fun found bound' => ?_, ?_⟩
    · rw [session] at bound'
      cases bound'
      exact hold.session old bound
    · rw [device?, session, number]
      rfl
  | none =>
    rw [kept] at session
    cases number : number? uniqueId with
    | some id =>
      simp only [number] at session
      refine ⟨after.hold fun found bound => ?_, ?_⟩
      · rw [session] at bound
        cases bound
        exact number
      · rw [device?, session]
        rfl
    | none =>
      simp only [number] at session
      refine ⟨after.hold fun found bound => ?_, ?_⟩
      · rw [session] at bound
        exact hold.session found bound
      · rw [device?, session]
        rfl

/-- Sessions of a connection that has so far heard these identifiers. -/
structure Hear (number? : String → Option DeviceId) (connection : ConnectionId)
    (heard : List String) (s : Sessions δ) : Prop extends s.Hold number? connection where
  device : s.device? connection = latest? number? heard

theorem Hear.bound {heard : List String} (hear : s.Hear number? connection heard)
    (uniqueIds : List String) :
    (s.bound connection uniqueIds).Hear number? connection (heard ++ uniqueIds) := by
  induction uniqueIds generalizing s heard with
  | nil => rwa [List.append_nil]
  | cons uniqueId uniqueIds ih =>
    obtain ⟨hold, device⟩ := hear.toHold.named uniqueId
    have next : (s.named .byConnection connection uniqueId).Hear number? connection
        (heard ++ [uniqueId]) := by
      refine ⟨hold, ?_⟩
      rw [device, hear.device, latest?_append, latest?_singleton]
    have later := ih next
    rwa [List.append_assoc] at later

/-- A registry that has just been made has heard nothing. -/
theorem hear_empty {directory : δ} (gives : Directory.Gives directory number?) :
    Hear number? connection [] (.empty, directory) where
  gives := gives
  identities := by rintro uniqueId id ⟨⟩
  session := by rintro session ⟨⟩
  device := rfl

end Sessions

namespace Egts

/-! ### What was heard -/

/-- The terminal identities that the decoder reads in a record. -/
def Record.identities (record : Record) : List SubRecord :=
  SubRecord.identities record.subRecords.1

/-- The records of a unit, without those of acknowledgments. -/
def records (unit : Bytes) : List Record :=
  ((Packet.readAll unit).1.flatMap Packet.subjects).map (·.2)

/-- A record, and the terminal identities that its connection had heard once it was taken. -/
structure Hearing where
  record : Record
  identities : List SubRecord

namespace Hearing

/-- Records that come after these identities. -/
def ofRecords (before : List SubRecord) : List Record → List Hearing
  | [] => []
  | record :: rest =>
    let identities := before ++ record.identities
    ⟨record, identities⟩ :: ofRecords identities rest

/-- All identifiers that were heard, first to last. -/
def heard (h : Hearing) : List String := h.identities.flatMap SubRecord.identifiers

/-- The identifiers of the last identity that was heard. -/
def current (h : Hearing) : List String :=
  (h.identities.getLast?.map SubRecord.identifiers).getD []

/-- Whether the record is telemetry that says where a device was, and nothing of it is malformed. -/
def isReport (h : Hearing) : Bool :=
  h.record.service == Record.teledataService && h.record.isWellFormed && h.record.hasPosition

/-- The position that comes of the record. -/
def position? (number? : String → Option DeviceId) (h : Hearing) : Option Position :=
  if h.isReport then
    (latest? number? h.heard).map fun deviceId => { h.record.report with deviceId }
  else none

theorem deviceId_of_position? {number? : String → Option DeviceId} {h : Hearing} {p : Position}
    (found : h.position? number? = some p) : latest? number? h.heard = some p.deviceId := by
  unfold position? at found
  split at found
  · obtain ⟨id, latest, rfl⟩ := Option.map_eq_some_iff.1 found
    exact latest
  · cases found

/-- The last number that was heard is of the last identity exactly if that has one at all. -/
theorem mem_current_iff {number? : String → Option DeviceId} {h : Hearing} {id : DeviceId}
    (latest : latest? number? h.heard = some id) :
    (∃ uniqueId ∈ h.current, number? uniqueId = some id) ↔
      ∃ uniqueId ∈ h.current, (number? uniqueId).isSome = true := by
  constructor
  · rintro ⟨uniqueId, member, number⟩
    exact ⟨uniqueId, member, by rw [number]; rfl⟩
  · intro named
    rcases List.eq_nil_or_concat h.identities with none | ⟨before, identity, identities⟩
    · rw [heard, none] at latest
      cases latest
    · have current : h.current = identity.identifiers := by
        rw [Hearing.current, identities, List.concat_eq_append, List.getLast?_concat]
        rfl
      rw [current] at named ⊢
      rw [heard, identities, List.concat_eq_append, List.flatMap_append, List.flatMap_singleton,
        latest?_append] at latest
      obtain ⟨other, last⟩ := Option.isSome_iff_exists.1 (isSome_latest?.2 named)
      rw [last] at latest
      rw [← latest]
      exact exists_of_latest? last

end Hearing

/-! ### Records -/

section

variable {δ : Type} [Directory δ] {number? : String → Option DeviceId} {connection : ConnectionId}
  {s : Sessions δ} {before : List SubRecord}

theorem Turn.finish_byConnection (connection : ConnectionId) (turn : Turn δ) :
    turn.finish .byConnection connection = turn.sessions := rfl

theorem Turn.hear_start (hear : s.Hear number? connection (before.flatMap SubRecord.identifiers))
    (subject : Option Nat × Record) :
    (Turn.start connection s subject).sessions.Hear number? connection
      ((before ++ subject.2.identities).flatMap SubRecord.identifiers) := by
  rw [List.flatMap_append]
  exact hear.bound _

/-- The positions of a course are those of what its connection heard. -/
theorem Turn.positions_of_hear
    (hear : s.Hear number? connection (before.flatMap SubRecord.identifiers))
    (subjects : List (Option Nat × Record)) :
    Turn.positions .byConnection connection s subjects =
      (Hearing.ofRecords before (subjects.map (·.2))).filterMap (Hearing.position? number?) := by
  induction subjects generalizing s before with
  | nil => rfl
  | cons subject rest ih =>
    have started := Turn.hear_start hear subject
    have first : (Turn.start connection s subject).position? .byConnection connection =
        Hearing.position? number? ⟨subject.2, before ++ subject.2.identities⟩ := by
      unfold Turn.position? Hearing.position? Hearing.heard
      rw [← started.device]
      rfl
    rw [Turn.positions_cons, Turn.finish_byConnection, ih started, first, List.map_cons,
      Hearing.ofRecords, List.filterMap_cons]
    cases Hearing.position? number? ⟨subject.2, before ++ subject.2.identities⟩ with
    | none => rfl
    | some position => rfl

theorem Turn.hear_outcome
    (hear : s.Hear number? connection (before.flatMap SubRecord.identifiers))
    (subjects : List (Option Nat × Record)) :
    (Turn.outcome .byConnection connection s subjects).Hear number? connection
      ((before ++ (subjects.map (·.2)).flatMap Record.identities).flatMap
          SubRecord.identifiers) := by
  induction subjects generalizing s before with
  | nil => rwa [List.map_nil, List.flatMap_nil, List.append_nil]
  | cons subject rest ih =>
    have later := ih (Turn.hear_start hear subject)
    rwa [List.append_assoc] at later

end

/-! ### Units -/

namespace Decoder

variable {δ μ : Type} [Directory δ]

/-- Decoder and services once a connection has sent units, whatever came of them. -/
def afterUnits (decoder : Decoder) (services : Services δ μ) (connection : ConnectionId)
    (units : List Bytes) : Decoder × Services δ μ :=
  units.foldl (fun state unit => (state.1.decode state.2 connection unit).2) (decoder, services)

variable {number? : String → Option DeviceId} {decoder : Decoder} {services : Services δ μ}
  {connection : ConnectionId} {before : List SubRecord}

/-- One unit: what it says of terminals is heard, and what it yields are positions of what was. -/
theorem hear_decode (mode : decoder.mode = .byConnection)
    (hear : Sessions.Hear number? connection (before.flatMap SubRecord.identifiers)
      (services.registry, services.directory)) (unit : Bytes) :
    let (result, decoder', services') := decoder.decode services connection unit
    decoder'.mode = .byConnection ∧
      Sessions.Hear number? connection
        ((before ++ (records unit).flatMap Record.identities).flatMap SubRecord.identifiers)
        (services'.registry, services'.directory) ∧
      ∀ positions, result = .ok positions →
        positions = (Hearing.ofRecords before (records unit)).filterMap
          (Hearing.position? number?) := by
  obtain ⟨run', reached, decoded⟩ :=
    decode_eq_of_byConnection mode hear.gives.reliable connection unit
  rw [decoded]
  refine ⟨reached.mode.trans mode, ?_, ?_⟩
  · show Sessions.Hear number? connection _ run'.sessions
    rw [reached.sessions]
    exact Turn.hear_outcome hear _
  · intro positions ok
    split at ok
    · cases ok
    · cases ok
      rw [reached.positions]
      exact Turn.positions_of_hear hear _

theorem hear_afterUnits (mode : decoder.mode = .byConnection)
    (hear : Sessions.Hear number? connection (before.flatMap SubRecord.identifiers)
      (services.registry, services.directory)) (units : List Bytes) :
    let (decoder', services') := decoder.afterUnits services connection units
    decoder'.mode = .byConnection ∧
      Sessions.Hear number? connection
        ((before ++ (units.flatMap records).flatMap Record.identities).flatMap
          SubRecord.identifiers)
        (services'.registry, services'.directory) := by
  induction units generalizing decoder services before with
  | nil =>
    rw [List.flatMap_nil, List.flatMap_nil, List.append_nil]
    exact ⟨mode, hear⟩
  | cons unit units ih =>
    obtain ⟨mode', hear', -⟩ := hear_decode mode hear unit
    have later := ih mode' hear'
    rwa [List.append_assoc, ← List.flatMap_append, ← List.flatMap_cons] at later

/-- Over a directory that gives identifiers these numbers, the positions of a unit are of the
devices whose identifiers were heard last on the connection, of all that have a number, in this
unit or in those before it, also where these failed. That is a device of the last identity exactly
if that has an identifier with a number. -/
theorem positions_of_decode_afterUnits (mode : decoder.mode = .byConnection)
    (fresh : Sessions.Hear number? connection [] (services.registry, services.directory))
    (units : List Bytes) {unit : Bytes} {positions : List Position}
    (ok : ((decoder.afterUnits services connection units).1.decode
      (decoder.afterUnits services connection units).2 connection unit).1 = .ok positions) :
    let hearings :=
      Hearing.ofRecords ((units.flatMap records).flatMap Record.identities) (records unit)
    positions = hearings.filterMap (Hearing.position? number?) ∧
      ∀ position ∈ positions, ∃ h ∈ hearings, h.position? number? = some position ∧
        ((∃ uniqueId ∈ h.current, number? uniqueId = some position.deviceId) ↔
          ∃ uniqueId ∈ h.current, (number? uniqueId).isSome = true) := by
  intro hearings
  have nothing : Sessions.Hear number? connection (([] : List SubRecord).flatMap
      SubRecord.identifiers) (services.registry, services.directory) := fresh
  obtain ⟨mode', hear⟩ := hear_afterUnits mode nothing units
  obtain ⟨-, -, told⟩ := hear_decode mode' hear unit
  have all := told positions ok
  refine ⟨all, ?_⟩
  intro position member
  rw [all, List.mem_filterMap] at member
  obtain ⟨h, among, found⟩ := member
  exact ⟨h, among, found, Hearing.mem_current_iff (Hearing.deviceId_of_position? found)⟩

/-- The number of the terminal of `sampleIdentity`, and that of another. -/
def sampleNumber? (uniqueId : String) : Option DeviceId :=
  if uniqueId = "123456789012345" then some ⟨42⟩
  else if uniqueId = "000000000000007" then some ⟨7⟩
  else none

/-- What a gateway shares that knows these two terminals and has not yet had a unit. -/
def sampleShare : Services (String → Lookup) Unit where
  registry := .empty
  directory uniqueId := (sampleNumber? uniqueId).elim .unknown .known
  media := ()
  replies := []

theorem hear_sampleShare : Sessions.Hear sampleNumber? ⟨1⟩ []
    (sampleShare.registry, sampleShare.directory) :=
  Sessions.hear_empty (Directory.gives_answers sampleNumber?)

/-- A terminal by one number of 15 digits, of which the last is given. -/
def identityOf (digit : UInt8) : Bytes :=
  SubRecord.build SubRecord.terminalIdentity
    ([77, 0, 0, 0, 2] ++ List.replicate 14 48 ++ [digit])

/-- A unit of one packet with one record of telemetry. -/
def sampleUnit (data : Bytes) : Bytes :=
  Packet.build 1 Packet.typeAppData (Record.build 5 Record.teledataService data)

/-- A terminal that is known; then, in a unit that fails, another; then one that is not known,
with a place before that is known again. -/
theorem positions_of_sampleUnits :
    let units := [sampleUnit sampleIdentity, sampleUnit (identityOf 55) ++ List.replicate 11 0]
    let unit :=
      sampleUnit (identityOf 57 ++ samplePlace) ++ sampleUnit (sampleIdentity ++ samplePlace)
    let hearings :=
      Hearing.ofRecords ((units.flatMap records).flatMap Record.identities) (records unit)
    ∃ positions : List Position,
      positions.map (·.deviceId) = [⟨7⟩, ⟨42⟩] ∧
        ∀ position ∈ positions, ∃ h ∈ hearings, h.position? sampleNumber? = some position ∧
          ((∃ uniqueId ∈ h.current, sampleNumber? uniqueId = some position.deviceId) ↔
            ∃ uniqueId ∈ h.current, (sampleNumber? uniqueId).isSome = true) := by
  intro units unit hearings
  let state := (start .byConnection).afterUnits sampleShare ⟨1⟩ units
  have decodes : (state.1.decode state.2 ⟨1⟩ unit).1.isOk = true := by decide +kernel
  cases ok : (state.1.decode state.2 ⟨1⟩ unit).1 with
  | error error =>
    rw [ok] at decodes
    cases decodes
  | ok positions =>
    obtain ⟨all, each⟩ := positions_of_decode_afterUnits rfl hear_sampleShare units ok
    refine ⟨positions, ?_, each⟩
    rw [all]
    decide +kernel

/-- A terminal that is not known leaves the connection with the device before it: the position that
comes after its identity is not one of its own. -/
theorem not_current_of_decode_afterUnits :
    ¬ ∀ (units : List Bytes) (unit : Bytes) (positions : List Position),
      (((start .byConnection).afterUnits sampleShare ⟨1⟩ units).1.decode
          ((start .byConnection).afterUnits sampleShare ⟨1⟩ units).2 ⟨1⟩ unit).1 = .ok positions →
        ∀ position ∈ positions,
          ∃ h ∈ Hearing.ofRecords ((units.flatMap records).flatMap Record.identities)
            (records unit),
            ∃ uniqueId ∈ h.current, sampleNumber? uniqueId = some position.deviceId := by
  intro claim
  let units := [sampleUnit sampleIdentity]
  let unit := sampleUnit (identityOf 57 ++ samplePlace)
  let state := (start .byConnection).afterUnits sampleShare ⟨1⟩ units
  have reported : ((state.1.decode state.2 ⟨1⟩ unit).1.toOption.map
      fun positions => positions.map (·.deviceId)) = some [⟨42⟩] := by decide +kernel
  cases ok : (state.1.decode state.2 ⟨1⟩ unit).1 with
  | error error =>
    rw [ok] at reported
    cases reported
  | ok positions =>
    rw [ok] at reported
    obtain ⟨position, rfl, -⟩ := List.map_eq_singleton_iff.1 (Option.some.inj reported)
    obtain ⟨h, among, uniqueId, member, number⟩ :=
      claim units unit [position] ok position List.mem_cons_self
    have none : ∀ h ∈ Hearing.ofRecords ((units.flatMap records).flatMap Record.identities)
        (records unit), ∀ uniqueId ∈ h.current, sampleNumber? uniqueId = none := by
      decide +kernel
    rw [none h among uniqueId member] at number
    cases number

end Decoder
end Egts
end TrackerGateway
