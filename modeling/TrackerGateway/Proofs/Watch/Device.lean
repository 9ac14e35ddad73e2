import TrackerGateway.Proofs.Session.Retention

/-!
# Whose a watch's messages are

A message tells its own report, or a status message with readings, or nothing (`Peer.Tells`). A
watch names itself in every frame, so a frame that can be taken leaves its connection with the
session of the watch, and what it tells is of that device. A frame that cannot be taken leaves the
session as it was, unless it is the media store that refused what the frame brought
(`decode_outcome`).
-/

namespace TrackerGateway

namespace Registry

variable {δ : Type} [Directory δ] {r r' : Registry} {directory directory' : δ}

theorem sessionOf?_of_resolve {connection : ConnectionId} {uniqueId : String} {session : Session}
    (h : r.resolve directory .byConnection connection (some uniqueId) =
      (.ok (some session), r', directory')) : r'.sessionOf? connection = some session := by
  have resolved := r.resolved directory .byConnection connection uniqueId
  rw [h] at resolved
  cases resolved with
  | kept _ bound => exact (Option.filter_eq_some_iff.1 bound).1
  | bound id between _ new identified =>
    simp only [bind, bindConnection, log, sessionOf?, Table.get?_put, if_true]

/-- Where a directory fails, no connection gets another session. -/
theorem sessionOf?_of_resolve_error {connection : ConnectionId} {uniqueId : String} {error : Error}
    (h : r.resolve directory .byConnection connection (some uniqueId) =
      (.error error, r', directory')) (other : ConnectionId) :
    r'.sessionOf? other = r.sessionOf? other := by
  have resolved := r.resolved directory .byConnection connection uniqueId
  rw [h] at resolved
  cases resolved with
  | failed _ _ _ _ identified => exact identified.sessionOf?_eq other

end Registry

namespace Position

/-- Whether a report is another with other attributes. -/
def Annotates (p q : Position) : Prop := ∃ attributes, p = { q with attributes }

theorem Annotates.refl (p : Position) : p.Annotates p := ⟨p.attributes, rfl⟩

theorem Annotates.set? {p q : Position} (h : p.Annotates q) (key : String)
    (value : Option Attribute) : (p.set? key value).Annotates q := by
  obtain ⟨attributes, rfl⟩ := h
  cases value <;> exact ⟨_, rfl⟩

theorem Annotates.deviceId_eq {p q : Position} (h : p.Annotates q) : p.deviceId = q.deviceId := by
  obtain ⟨attributes, rfl⟩ := h
  rfl

theorem Annotates.isFix_eq {p q : Position} (h : p.Annotates q) : p.isFix = q.isFix := by
  obtain ⟨attributes, rfl⟩ := h
  rfl

end Position

namespace Watch

namespace Message

variable {m : Message} {status p : Position}

theorem annotates_of_keepAliveStatus? (h : m.keepAliveStatus? status = some p) :
    p.Annotates status := by
  unfold keepAliveStatus? at h
  split at h
  · cases h
  · split at h
    · cases h
      exact ((Position.Annotates.refl status).set? _ _).set? _ _
    · cases h

theorem annotates_of_heartRateStatus? (h : m.heartRateStatus? status = some p) :
    p.Annotates status := by
  unfold heartRateStatus? at h
  split at h
  · cases h
  · cases h
    exact (Position.Annotates.refl status).set? _ _

theorem annotates_of_bloodPressureStatus? (h : m.bloodPressureStatus? status = some p) :
    p.Annotates status := by
  unfold bloodPressureStatus? at h
  split at h
  · cases h
  · cases h
    exact (((Position.Annotates.refl status).set? _ _).set? _ _).set? _ _

/-- Whether a message tells where its watch is. -/
def isReport (m : Message) : Bool := m.kind == .report || m.kind == .alarm

/-- The location fix that a message of a device tells. -/
def fix? (m : Message) (device : DeviceId) : Option Position :=
  if m.isReport then
    ((Report.position? m.text).map fun p => { p with deviceId := device }).filter Position.isFix
  else none

end Message

variable {δ μ : Type}

namespace Peer

theorem deviceId_status (services : Services δ μ) (device : DeviceId)
    (deviceTime : Option Instant) : (status services device deviceTime).deviceId = device := by
  unfold status Position.withLastLocation
  cases services.registry.lastPosition? device <;> rfl

theorem isFix_status (services : Services δ μ) (device : DeviceId) (deviceTime : Option Instant) :
    (status services device deviceTime).isFix = false := by
  unfold status Position.withLastLocation
  cases services.registry.lastPosition? device <;> rfl

/-- What a message of a device may tell: its report, a status message with readings, or nothing. -/
inductive Tells (services : Services δ μ) (device : DeviceId) (m : Message) :
    Option Position → Prop where
  | report (kind : m.isReport = true) :
    Tells services device m ((Report.position? m.text).map fun p => { p with deviceId := device })
  | status (kind : m.isReport = false) (deviceTime : Option Instant) {p : Position}
    (h : p.Annotates (status services device deviceTime)) : Tells services device m (some p)
  | nothing (kind : m.isReport = false) : Tells services device m none

/-- What a message tells is of the device that sent it. -/
theorem Tells.deviceId_eq {services : Services δ μ} {device : DeviceId} {m : Message}
    {found : Option Position} (tells : Tells services device m found) {p : Position}
    (h : found = some p) : p.deviceId = device := by
  cases tells with
  | report =>
    obtain ⟨read, -, rfl⟩ := Option.map_eq_some_iff.1 h
    rfl
  | status kind deviceTime annotates =>
    cases h
    rw [annotates.deviceId_eq, deviceId_status]
  | nothing => cases h

/-- Only a report tells a fix, and it tells that by itself. -/
theorem Tells.filter_eq {services : Services δ μ} {device : DeviceId} {m : Message}
    {found : Option Position} (tells : Tells services device m found) :
    found.filter Position.isFix = m.fix? device := by
  unfold Message.fix?
  cases tells with
  | report kind => rw [if_pos kind]
  | status kind deviceTime annotates =>
    rw [kind, Option.filter, annotates.isFix_eq, isFix_status]
    simp only [Bool.false_eq_true, if_false]
  | nothing kind =>
    rw [kind]
    simp only [Bool.false_eq_true, if_false, Option.filter_none]

variable [MediaStore μ]

theorem tells_keep {services : Services δ μ} {device : DeviceId} {m : Message}
    (kind : m.isReport = false) {uniqueId extension key : String} {data : Bytes}
    {deviceTime : Option Instant} {found : Option Position}
    (h : (keep services uniqueId data extension key (status services device deviceTime)).1 =
      .ok found) : Tells services device m found := by
  unfold keep at h
  cases stored : services.store uniqueId data extension with
  | mk result after =>
    rw [stored] at h
    cases result with
    | error error => cases h
    | ok reference =>
      cases h
      exact .status kind deviceTime ⟨_, rfl⟩

theorem tells_interpret {services : Services δ μ} {receivedAt : Instant} {uniqueId : String}
    {device : DeviceId} {m : Message} {found : Option Position}
    (h : (interpret services receivedAt uniqueId device m).1 = .ok found) :
    Tells services device m found := by
  have status {found : Option Position} (kind : m.isReport = false) (deviceTime : Option Instant)
      (annotates : ∀ p, found = some p → p.Annotates (status services device deviceTime)) :
      Tells services device m found := by
    cases found with
    | none => exact .nothing kind
    | some p => exact .status kind deviceTime (annotates p rfl)
  have isReport : m.isReport = (m.kind == .report || m.kind == .alarm) := rfl
  unfold interpret at h
  cases kind : m.kind with
  | report | alarm =>
    rw [kind] at h isReport
    rw [← Except.ok.inj h]
    exact .report isReport
  | hello | check | other =>
    rw [kind] at h isReport
    cases h
    exact .nothing isReport
  | keepAlive =>
    rw [kind] at h isReport
    cases h
    exact status isReport none fun p => Message.annotates_of_keepAliveStatus?
  | heartRate =>
    rw [kind] at h isReport
    cases h
    exact status isReport (some receivedAt) fun p => Message.annotates_of_heartRateStatus?
  | bloodPressure =>
    rw [kind] at h isReport
    cases h
    exact status isReport (some receivedAt) fun p => Message.annotates_of_bloodPressureStatus?
  | image =>
    rw [kind] at h isReport
    simp only at h
    split at h
    · exact tells_keep isReport h
    · cases h
      exact .nothing isReport
  | voice =>
    rw [kind] at h isReport
    exact tells_keep isReport h

/-- A message cannot be taken for one reason only: the store refuses what it brings. -/
theorem isOk_interpret {services : Services δ μ}
    (stores : ∀ uniqueId data extension,
      (MediaStore.store services.media uniqueId data extension).1.isOk = true)
    (receivedAt : Instant) (uniqueId : String) (device : DeviceId) (m : Message) :
    (interpret services receivedAt uniqueId device m).1.isOk = true := by
  have kept (data : Bytes) (extension key : String) (p : Position) :
      (keep services uniqueId data extension key p).1.isOk = true := by
    have accepted := stores uniqueId data extension
    simp only [keep, Services.store]
    cases taken : (MediaStore.store services.media uniqueId data extension).1 with
    | error error =>
      rw [taken] at accepted
      cases accepted
    | ok reference => rfl
  unfold interpret
  cases m.kind with
  | image =>
    simp only
    split
    · exact kept _ _ _ _
    · rfl
  | voice => exact kept _ _ _ _
  | _ => rfl

/-! ### Frames -/

variable [Directory δ] {peer : Peer} {services services' : Services δ μ} {connection : ConnectionId}
  {receivedAt : Instant} {frame : Bytes} {header : Header}

theorem decode_of_session {session : Session} (scanned : Header.scan frame = .complete header)
    (resolved : services.resolve .byConnection connection (some header.deviceId) =
      (.ok (some session), services')) :
    peer.decode services connection receivedAt frame =
      let m := Message.ofFrame header frame
      let told :=
        interpret (answer services' header m) receivedAt header.deviceId session.deviceId m
      (told.1.map Option.toList, (peer.heard header).identified header, told.2) := by
  simp only [decode, Header.scan?, scanned, resolved]

/-- A frame whose device is not known, or cannot be asked for, does nothing but name it. -/
theorem decode_of_no_session (scanned : Header.scan frame = .complete header)
    (missing : ∀ session, (services.resolve .byConnection connection (some header.deviceId)).1 ≠
      .ok (some session)) :
    peer.decode services connection receivedAt frame =
      let named := services.resolve .byConnection connection (some header.deviceId)
      (named.1.map fun _ => [], peer.heard header, named.2) := by
  simp only [decode, Header.scan?, scanned]
  generalize services.resolve .byConnection connection (some header.deviceId) = named at missing
  obtain ⟨result, after⟩ := named
  rcases result with error | found | session
  · rfl
  · rfl
  · exact absurd rfl (missing session)

/-- A frame that can be taken tells of the device of the session that it leaves; one that cannot
leaves the session that was there before, where the store takes everything. -/
theorem decode_outcome {peer : Peer} {services : Services δ μ}
    (stores : ∀ uniqueId data extension,
      (MediaStore.store services.media uniqueId data extension).1.isOk = true)
    (connection : ConnectionId) (receivedAt : Instant) (frame : Bytes) :
    let (result, _, services') := peer.decode services connection receivedAt frame
    match result with
    | .ok positions => ∀ p ∈ positions, services'.sessions.device? connection = some p.deviceId
    | .error _ => services'.sessions.device? connection = services.sessions.device? connection := by
  unfold decode
  cases Header.scan? frame with
  | none =>
    rintro p ⟨⟩
  | some header =>
    simp only [Services.resolve]
    obtain ⟨⟨result, registry, directory⟩, resolved⟩ : ∃ outcome, services.registry.resolve
      services.directory .byConnection connection (some header.deviceId) = outcome := ⟨_, rfl⟩
    rw [resolved]
    match result with
    | .error error =>
      show (registry.sessionOf? connection).map (·.deviceId) = services.sessions.device? connection
      rw [Registry.sessionOf?_of_resolve_error resolved connection]
      rfl
    | .ok none => rintro p ⟨⟩
    | .ok (some session) =>
      let answered := answer { services with registry, directory } header
        (Message.ofFrame header frame)
      have media : answered.media = services.media := media_answer _ _ _
      rw [← media] at stores
      have read := isOk_interpret stores receivedAt header.deviceId session.deviceId
        (Message.ofFrame header frame)
      have same : (interpret answered receivedAt header.deviceId session.deviceId
          (Message.ofFrame header frame)).2.registry = registry :=
        congrArg Prod.fst ((sessions_interpret answered _ _ _ _).trans (sessions_answer _ _ _))
      simp only
      obtain ⟨⟨told, services'⟩, interpreted⟩ : ∃ outcome, interpret answered receivedAt
        header.deviceId session.deviceId (Message.ofFrame header frame) = outcome := ⟨_, rfl⟩
      rw [interpreted] at read same ⊢
      match told with
      | .ok found =>
        intro p member
        obtain rfl : found = some p := by simpa using member
        simp only at same
        rw [Sessions.device?, Services.sessions, same, Registry.sessionOf?_of_resolve resolved,
          (tells_interpret (congrArg Prod.fst interpreted)).deviceId_eq rfl]
        rfl

end Peer

/-- Services of which the directory knows every watch. -/
def sampleServices : Services (String → Lookup) MediaLibrary where
  registry := .empty
  directory _ := .known ⟨42⟩
  media := .empty
  replies := []

end Watch

end TrackerGateway
