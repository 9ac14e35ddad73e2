import TrackerGateway.Proofs.Egts.Attribution
import TrackerGateway.Proofs.Gateway.Steps
import TrackerGateway.Proofs.Session.Constancy
import TrackerGateway.Proofs.Watch.Device

/-!
# Whose positions watches report, and what their status messages repeat

The last position of a device is its last location fix among all that the gateway has handed on,
whichever connections they came by (`Gateway.Located`). A frame of a watch finds the session of
its own identifier, so what it tells is of the device that the directory names. Where it tells no
report of its own, it repeats the place of that device's last fix; it is not a fix itself, so it
does not become the next one (`Gateway.status_of_run`).
-/

namespace TrackerGateway

theorem exists_of_map_eq_ok {ε α β : Type} {f : α → β} {result : Except ε α} {b : β}
    (h : result.map f = .ok b) : ∃ a, result = .ok a ∧ f a = b := by
  cases result with
  | error error => cases h
  | ok a => exact ⟨a, rfl, Except.ok.inj h⟩

theorem DeviceId.isSet_of_ne_unset {id : DeviceId} (h : id ≠ .unset) : id.isSet = true := by
  refine bne_iff_ne.2 fun zero => h ?_
  obtain ⟨value⟩ := id
  exact congrArg DeviceId.mk zero

/-- The last location fix of a device among positions. -/
def lastFix? (device : DeviceId) (positions : List Position) : Option Position :=
  latest? (fun p => if p.isFix && p.deviceId == device then some p else none) positions

theorem lastFix?_append (device : DeviceId) (earlier later : List Position) :
    lastFix? device (earlier ++ later) = (lastFix? device later).or (lastFix? device earlier) :=
  latest?_append _ _ _

/-- Whether one report repeats the place of another, with how sure it is and how the device
moved. -/
structure Position.Repeats (p q : Position) : Prop where
  valid : p.valid = q.valid
  latitude : p.latitude = q.latitude
  longitude : p.longitude = q.longitude
  altitude : p.altitude = q.altitude
  speed : p.speed = q.speed
  course : p.course = q.course

theorem Position.Annotates.repeats {p q r : Position} (annotates : p.Annotates q)
    (repeats : q.Repeats r) : p.Repeats r := by
  obtain ⟨attributes, rfl⟩ := annotates
  exact ⟨repeats.valid, repeats.latitude, repeats.longitude, repeats.altitude, repeats.speed,
    repeats.course⟩

namespace Registry

theorem updateLast_of_status (r : Registry) {p : Position} (status : p.isFix = false) :
    r.updateLast p = r := by
  simp [updateLast, status]

theorem lastPosition?_updateLast {device : DeviceId} (set : device.isSet = true) (r : Registry)
    (p : Position) :
    (r.updateLast p).lastPosition? device = (lastFix? device [p]).or (r.lastPosition? device) := by
  rw [lastFix?, latest?_singleton]
  cases fix : p.isFix with
  | false => simp [r.updateLast_of_status fix]
  | true =>
    by_cases own : p.deviceId = device
    · subst own
      simp [updateLast, lastPosition?, fix, set, Table.get?_put]
    · unfold updateLast
      split <;> simp [lastPosition?, own, Table.get?_put]

/-- Of the positions that are handed on, the last fix of a device is kept. -/
theorem lastPosition?_foldl_updateLast {device : DeviceId} (set : device.isSet = true)
    (r : Registry) (positions : List Position) :
    (positions.foldl updateLast r).lastPosition? device =
      (lastFix? device positions).or (r.lastPosition? device) := by
  induction positions generalizing r with
  | nil => rfl
  | cons p positions ih =>
    have split := lastFix?_append device [p] positions
    rw [List.singleton_append] at split
    rw [List.foldl_cons, ih, lastPosition?_updateLast set, split, Option.or_assoc]

variable {δ : Type} [Directory δ]

theorem lastPositions_resolve (r : Registry) (directory : δ) (mode : SessionMode)
    (connection : ConnectionId) (uniqueId : String) :
    (r.resolve directory mode connection (some uniqueId)).2.1.lastPositions = r.lastPositions := by
  have resolved := r.resolved directory mode connection uniqueId
  generalize r.resolve directory mode connection (some uniqueId) = outcome at resolved ⊢
  have kept {asker : Option ConnectionId} {result : Except Error (Option DeviceId)} {r' : Registry}
      {directory' : δ}
        (identified : Identified r directory uniqueId asker (result, r', directory')) :
      r'.lastPositions = r.lastPositions := by
    cases identified <;> rfl
  cases resolved with
  | kept => rfl
  | unknown _ _ _ identified | failed _ _ _ _ identified => exact kept identified
  | bound _ _ _ _ identified =>
    rw [← kept identified]
    cases mode <;> rfl

end Registry

theorem Sessions.lasting_lastPositions {δ : Type} [Directory δ] (connection : ConnectionId)
    (lastPositions : Table DeviceId Position) :
    Lasting connection fun s : Sessions δ => s.1.lastPositions = lastPositions :=
  fun s mode uniqueId same => (s.1.lastPositions_resolve s.2 mode connection uniqueId).trans same

/-! ### Frames -/

namespace Watch

namespace Message

/-- The types of messages that tell readings, pictures or voice. -/
def statusTypes : List String := ["LK", "PULSE", "heart", "bphrt", "img", "TK"]

theorem isReport_of_statusTypes {m : Message} (status : m.type ∈ statusTypes) :
    m.isReport = false := by
  simp only [statusTypes, List.mem_cons, List.not_mem_nil, or_false] at status
  rcases status with h | h | h | h | h | h <;> rw [isReport, kind, h] <;> rfl

end Message

namespace Peer

variable {δ μ : Type}

theorem repeats_status (services : Services δ μ) (device : DeviceId) (deviceTime : Option Instant) :
    (status services device deviceTime).Repeats
      ((services.registry.lastPosition? device).getD (.blank protocolName)) := by
  unfold status Position.withLastLocation
  cases services.registry.lastPosition? device <;> exact ⟨rfl, rfl, rfl, rfl, rfl, rfl⟩

/-- What is no report is a status message, which is no fix and repeats the device's last one. -/
theorem Tells.of_status {services : Services δ μ} {device : DeviceId} {m : Message} {p : Position}
    (tells : Tells services device m (some p)) (kind : m.isReport = false) :
    p.isFix = false ∧
      p.Repeats ((services.registry.lastPosition? device).getD (.blank protocolName)) := by
  generalize told : some p = found at tells
  cases tells with
  | report isReport =>
    rw [kind] at isReport
    cases isReport
  | nothing => cases told
  | status _ deviceTime annotates =>
    cases told
    exact ⟨annotates.isFix_eq.trans (isFix_status services device deviceTime),
      annotates.repeats (repeats_status services device deviceTime)⟩

variable [Directory δ] [MediaStore μ]

/-- A frame tells one position at most, and only if there is a session for its identifier. -/
theorem tells_of_decode {peer : Peer} {services : Services δ μ} {connection : ConnectionId}
    {receivedAt : Instant} {frame : Bytes} {positions : List Position} {p : Position}
    (decoded : (peer.decode services connection receivedAt frame).1 = .ok positions)
    (member : p ∈ positions) :
    ∃ header session, Header.scan frame = .complete header ∧
      (services.resolve .byConnection connection (some header.deviceId)).1 = .ok (some session) ∧
      let named := (services.resolve .byConnection connection (some header.deviceId)).2
      let m := Message.ofFrame header frame
      positions = [p] ∧ Tells (answer named header m) session.deviceId m (some p) ∧
        (peer.decode services connection receivedAt frame).2.2.sessions = named.sessions := by
  cases scanned : Header.scan frame with
  | incomplete | invalid =>
    rw [decode, Header.scan?, scanned] at decoded
    cases decoded
    cases member
  | complete header =>
    by_cases resolves : services.Resolves connection header.deviceId
    · obtain ⟨session, after, resolved⟩ := resolves.exists_eq
      refine ⟨header, session, rfl, by rw [resolved], ?_⟩
      rw [decode_of_session scanned resolved] at decoded ⊢
      rw [resolved]
      obtain ⟨found, read, rfl⟩ := exists_of_map_eq_ok decoded
      obtain rfl : found = some p := by simpa using member
      refine ⟨rfl, tells_interpret read, ?_⟩
      exact (sessions_interpret _ _ _ _ _).trans (sessions_answer _ _ _)
    · rw [decode_of_no_session scanned (not_exists.1 resolves)] at decoded
      obtain ⟨found, -, rfl⟩ := exists_of_map_eq_ok decoded
      cases member

end Peer
end Watch

/-! ### Runs -/

namespace Gateway

variable {δ μ : Type} [Directory δ] {answers : String → Lookup}

/-- Whether the numbers that a gateway has are those of constant answers, and the last positions
that it has are the last fixes of those that it has handed on. -/
structure Located (answers : String → Lookup) (g : Gateway δ μ) : Prop where
  accurate : g.services.sessions.Accurate answers
  last : ∀ device, device.isSet = true →
    g.services.registry.lastPosition? device = lastFix? device g.emitted

theorem located_start {directory : δ} (constant : Directory.Constant directory answers)
    (options : Protocol → ProtocolOptions) (media : μ) :
    (start options directory media).Located answers where
  accurate := Sessions.accurate_empty constant
  last := fun _ _ => rfl

theorem Located.close {g : Gateway δ μ} (located : g.Located answers) (id : ConnectionId) :
    (g.close id).Located answers := by
  unfold Gateway.close
  split
  · refine ⟨located.accurate.release id, fun device set => ?_⟩
    rw [← located.last device set]
    unfold Registry.release
    split <;> rfl
  · exact located

variable [MediaStore μ]

theorem Located.takeUnit {g : Gateway δ μ} (located : g.Located answers) (id : ConnectionId)
    (receivedAt : Instant) (unit : Bytes) : (g.takeUnit id receivedAt unit).2.Located answers := by
  cases isOpen : g.connection? id with
  | none => rwa [takeUnit_of_closed isOpen]
  | some c =>
    have accurate : (c.decoder.decode g.services id receivedAt unit).2.2.sessions.Accurate
        answers :=
      c.decoder.keeps_decode (Sessions.lasting_accurate id) located.accurate receivedAt unit
    have same : (c.decoder.decode g.services id receivedAt unit).2.2.registry.lastPositions =
        g.services.registry.lastPositions :=
      c.decoder.keeps_decode (Sessions.lasting_lastPositions id _) rfl receivedAt unit
    have taken := taken_takeUnit isOpen receivedAt unit
    refine ⟨?_, fun device set => ?_⟩
    · obtain ⟨lastPositions, handedOn⟩ := taken.exists_registry_eq
      rw [Services.sessions, taken.directory, handedOn]
      exact accurate.withLastPositions lastPositions
    · rw [taken.registry, taken.emitted, Registry.lastPosition?_foldl_updateLast set,
        lastFix?_append, ← located.last device set, Registry.lastPosition?, same]
      rfl

theorem Located.step {g : Gateway δ μ} (located : g.Located answers) (s : Step) :
    (g.step s).Located answers := by
  cases s with
  | accept protocol transport endpoint => exact ⟨located.accurate, located.last⟩
  | unit id receivedAt octets => exact located.takeUnit id receivedAt octets
  | close id => exact located.close id

/-- Whatever the connections of a gateway have brought, over a directory whose answers are
constant and never the number of no device: a position that a frame of a watch tells is of the
device that the directory names for the identifier in this frame. One of a status message has no
fix time; it repeats the last fix that was handed on for its device, or the blank report if there
was none; and handing it on leaves the last position of every device as it is. -/
theorem status_of_run {directory : δ} (constant : Directory.Constant directory answers)
    (numbered : ∀ uniqueId, answers uniqueId ≠ .known .unset) (options : Protocol → ProtocolOptions)
    (media : μ) (steps : List Step) (peer : Watch.Peer) (connection : ConnectionId)
    (receivedAt : Instant) (frame : Bytes) :
    let g := (start options directory media).run steps
    let outcome := peer.decode g.services connection receivedAt frame
    ∀ positions, outcome.1 = .ok positions → ∀ p ∈ positions,
      ∃ header, Watch.Header.scan frame = .complete header ∧
        answers header.deviceId = .known p.deviceId ∧
        ((Watch.Message.ofFrame header frame).type ∈ Watch.Message.statusTypes →
          p.fixTime = none ∧
            p.Repeats ((lastFix? p.deviceId g.emitted).getD (.blank Watch.protocolName)) ∧
            ∀ device, (positions.foldl Registry.updateLast outcome.2.2.registry).lastPosition?
              device = g.services.registry.lastPosition? device) := by
  intro g outcome positions decoded p member
  have located : g.Located answers :=
    run_induction (Located answers) (located_start constant options media)
      (fun _ s located => located.step s) steps
  obtain ⟨header, session, scanned, resolved, alone, tells, sessions⟩ :=
    Watch.Peer.tells_of_decode decoded member
  have device : p.deviceId = session.deviceId := tells.deviceId_eq rfl
  have number : answers header.deviceId = .known session.deviceId :=
    (located.accurate.resolve .byConnection connection header.deviceId).2 rfl session resolved
  refine ⟨header, scanned, by rw [device, number], fun status => ?_⟩
  obtain ⟨noFix, repeats⟩ := tells.of_status (Watch.Message.isReport_of_statusTypes status)
  have set : p.deviceId.isSet = true := by
    rw [device]
    exact DeviceId.isSet_of_ne_unset fun unset => numbered header.deviceId (by rw [number, unset])
  let named := (g.services.resolve .byConnection connection (some header.deviceId)).2
  have lastPositions : named.registry.lastPositions = g.services.registry.lastPositions :=
    g.services.registry.lastPositions_resolve g.services.directory .byConnection connection
      header.deviceId
  have answered : (Watch.Peer.answer named header (.ofFrame header frame)).registry =
      named.registry :=
    congrArg Prod.fst (Watch.Peer.sessions_answer named header (.ofFrame header frame))
  have after : outcome.2.2.registry = named.registry := congrArg Prod.fst sessions
  refine ⟨?_, ?_, fun other => ?_⟩
  · rwa [Position.isFix, Option.isSome_eq_false_iff, Option.isNone_iff_eq_none] at noFix
  · rw [← located.last p.deviceId set, device]
    rwa [answered, Registry.lastPosition?, lastPositions] at repeats
  · rw [alone, List.foldl_cons, List.foldl_nil, Registry.updateLast_of_status _ noFix, after,
      Registry.lastPosition?, lastPositions]
    rfl

/-- A terminal says who it is and where, and then a watch comes. -/
def samplePassage : List Step :=
  [.accept .egts .tcp ⟨0, .v4 [127, 0, 0, 1] 40000⟩,
    .unit ⟨0⟩ ⟨0, 0⟩
      (Egts.Decoder.sampleUnit (Egts.Decoder.sampleIdentity ++ Egts.Decoder.samplePlace)),
    .accept .watch .tcp ⟨1, .v4 [127, 0, 0, 1] 40001⟩]

def sampleAnswers : String → Lookup := fun _ => .known ⟨7⟩

/-- A watch repeats the place that another connection told for the same device. -/
theorem status_of_samplePassage :
    let g := (start (fun _ => .default) sampleAnswers MediaLibrary.empty).run samplePassage
    let frame := "[3G*1*000B*LK,100,0,50]".toUTF8.toList
    ∃ p fix, (Watch.Peer.unknown.decode g.services ⟨1⟩ ⟨0, 0⟩ frame).1 = .ok [p] ∧
      lastFix? ⟨7⟩ g.emitted = some fix ∧ p.deviceId = ⟨7⟩ ∧ p.fixTime = none ∧ p.Repeats fix := by
  intro g frame
  have numbered (uniqueId : String) : sampleAnswers uniqueId ≠ .known .unset := by
    show Lookup.known ⟨7⟩ ≠ .known .unset
    decide
  have one : ((Watch.Peer.unknown.decode g.services ⟨1⟩ ⟨0, 0⟩ frame).1.map List.length) =
      .ok 1 := by
    decide +kernel
  have had : (lastFix? ⟨7⟩ g.emitted).isSome = true := by decide +kernel
  have read : Watch.Header.scan frame = .complete ⟨"3G", "1", none, 11, 11⟩ := by decide +kernel
  have status : (Watch.Message.ofFrame ⟨"3G", "1", none, 11, 11⟩ frame).type ∈
      Watch.Message.statusTypes := by
    decide +kernel
  obtain ⟨positions, decoded, single⟩ := exists_of_map_eq_ok one
  obtain ⟨p, rfl⟩ := List.length_eq_one_iff.1 single
  obtain ⟨fix, last⟩ := Option.isSome_iff_exists.1 had
  obtain ⟨header, scanned, number, tells⟩ :=
    status_of_run (Directory.constant_answers sampleAnswers) numbered (fun _ => .default)
      MediaLibrary.empty samplePassage Watch.Peer.unknown ⟨1⟩ ⟨0, 0⟩ frame [p] decoded p
      (List.mem_singleton_self p)
  have device : p.deviceId = ⟨7⟩ := (Lookup.known.inj number).symm
  rw [read] at scanned
  cases scanned
  obtain ⟨noTime, repeats, -⟩ := tells status
  rw [device, show lastFix? ⟨7⟩ _ = some fix from last] at repeats
  exact ⟨p, fix, decoded, last, device, noTime, repeats⟩

end Gateway
end TrackerGateway
