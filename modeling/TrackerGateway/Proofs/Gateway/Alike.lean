import TrackerGateway.Proofs.Session.Steady
import TrackerGateway.Proofs.Watch.Device

/-!
# Services that a connection cannot tell apart

Two registries may have heard different things of other connections. Over a directory that never
changes its answers and a store that never fails, a connection with the same session in both hears
the same from both (`Services.Alike`), so its decoder does the same with a unit and leaves them
alike (`Decoder.alike_decode`). The one thing that may differ are the messages of a watch that are
not location fixes: they repeat a last fix and tell the references of stored data.
-/

namespace TrackerGateway

namespace MediaStore

variable {μ : Type} [MediaStore μ]

/-- A store once data have been stored, one after the other. -/
def after (media : μ) (stored : List (String × Bytes × String)) : μ :=
  stored.foldl (fun media (uniqueId, data, extension) => (store media uniqueId data extension).2)
    media

/-- Whether a store takes everything, whatever it has taken before. -/
def Reliable (media : μ) : Prop :=
  ∀ (stored : List (String × Bytes × String)) (uniqueId : String) (data : Bytes)
    (extension : String), (store (after media stored) uniqueId data extension).1.isOk = true

theorem Reliable.store {media : μ} (reliable : Reliable media) (uniqueId : String) (data : Bytes)
    (extension : String) : Reliable (MediaStore.store media uniqueId data extension).2 :=
  fun stored => reliable ((uniqueId, data, extension) :: stored)

theorem reliable_library (library : MediaLibrary) : Reliable library := fun _ _ _ _ => rfl

end MediaStore

namespace Services

variable {δ μ : Type} [Directory δ] [MediaStore μ]

/-- Services with these numbers of identifiers, and with a store that never fails. -/
structure Sound (numbers : Numbers) (s : Services δ μ) : Prop where
  sessions : s.sessions.Steady numbers
  media : MediaStore.Reliable s.media

/-- Services that a connection cannot tell apart: its session and its replies are the same, and so
are the numbers of identifiers. -/
structure Alike (numbers : Numbers) (connection : ConnectionId) (s s' : Services δ μ) : Prop where
  left : s.Sound numbers
  right : s'.Sound numbers
  session : s'.registry.sessionOf? connection = s.registry.sessionOf? connection
  replies : s'.replies = s.replies

variable {numbers : Numbers} {connection : ConnectionId} {s s' : Services δ μ}

theorem Sound.alike (sound : s.Sound numbers) (connection : ConnectionId) :
    Alike numbers connection s s :=
  ⟨sound, sound, rfl, rfl⟩

theorem Sound.resolve (sound : s.Sound numbers) (mode : SessionMode) (connection : ConnectionId)
    (uniqueId : String) : (s.resolve mode connection (some uniqueId)).2.Sound numbers :=
  ⟨sound.sessions.named mode connection uniqueId, sound.media⟩

/-- What a connection names is found alike, and leaves the services alike. -/
theorem Alike.resolve (alike : Alike numbers connection s s') (mode : SessionMode)
    (uniqueId : String) :
    Egts.Decoder.Run.Same (s.resolve mode connection (some uniqueId)).1
        (s'.resolve mode connection (some uniqueId)).1 ∧
      Alike numbers connection (s.resolve mode connection (some uniqueId)).2
        (s'.resolve mode connection (some uniqueId)).2 := by
  have left := alike.left.resolve mode connection uniqueId
  have right := alike.right.resolve mode connection uniqueId
  cases mode with
  | byConnection =>
    obtain ⟨ok, session⟩ := alike.left.sessions.resolve_byConnection connection uniqueId
    obtain ⟨ok', session'⟩ := alike.right.sessions.resolve_byConnection connection uniqueId
    rw [show s'.sessions.1.sessionOf? connection = s.sessions.1.sessionOf? connection from
      alike.session] at ok' session'
    refine ⟨?_, left, right, session'.trans session.symm, alike.replies⟩
    rw [show (s.resolve .byConnection connection (some uniqueId)).1 = _ from ok,
      show (s'.resolve .byConnection connection (some uniqueId)).1 = _ from ok']
    exact .refl _
  | byIdentifier =>
    obtain ⟨⟨found, ok, number⟩, session⟩ :=
      alike.left.sessions.resolve_byIdentifier connection connection uniqueId
    obtain ⟨⟨found', ok', number'⟩, session'⟩ :=
      alike.right.sessions.resolve_byIdentifier connection connection uniqueId
    refine ⟨?_, left, right, (session'.trans alike.session).trans session.symm, alike.replies⟩
    rw [show (s.resolve .byIdentifier connection (some uniqueId)).1 = _ from ok,
      show (s'.resolve .byIdentifier connection (some uniqueId)).1 = _ from ok']
    exact .of_device (number'.trans number.symm)

theorem Alike.respond (alike : Alike numbers connection s s') (reply : Bytes) :
    Alike numbers connection (s.respond reply) (s'.respond reply) where
  left := ⟨alike.left.sessions, alike.left.media⟩
  right := ⟨alike.right.sessions, alike.right.media⟩
  session := alike.session
  replies := congrArg (· ++ [reply]) alike.replies

end Services

/-! ### Packets -/

namespace Egts.Decoder

variable {δ μ : Type} [Directory δ] [MediaStore μ] {numbers : Numbers} {connection : ConnectionId}

/-- Runs that differ only in services that their connection cannot tell apart. -/
structure Run.Twins (numbers : Numbers) (connection : ConnectionId) (run run' : Run δ μ) :
    Prop where
  decoder : run'.decoder = run.decoder
  services : run.services.Alike numbers connection run'.services
  positions : run'.positions = run.positions

theorem Run.Twins.send {run run' : Run δ μ} (twins : run.Twins numbers connection run')
    (packetType : Nat) (frame : Bytes) :
    (run.send packetType frame).Twins numbers connection (run'.send packetType frame) := by
  unfold Run.send
  rw [twins.decoder]
  exact ⟨rfl, twins.services.respond _, twins.positions⟩

theorem Run.simulation_twins :
    Simulation connection (Run.Twins (δ := δ) (μ := μ) numbers connection) where
  mode twins := congrArg mode twins.decoder
  session twins := by
    rw [twins.services.session]
    exact .refl _
  resolve := by
    intro run run' twins uniqueId
    obtain ⟨same, after⟩ := twins.services.resolve run.decoder.mode uniqueId
    unfold Run.resolve
    rw [twins.decoder]
    exact ⟨same, rfl, after, twins.positions⟩
  confirm twins service := twins.send _ _

/-- A connection's decoder does the same with packets whatever other connections have done. -/
theorem alike_decode {s s' : Services δ μ} (alike : s.Alike numbers connection s')
    (decoder : Decoder) (bytes : Bytes) :
    let (result, state, after) := decoder.decode s connection bytes
    let (result', state', after') := decoder.decode s' connection bytes
    result' = result ∧ state' = state ∧ after.Alike numbers connection after' := by
  have start : Run.Twins numbers connection ⟨decoder, s, []⟩ ⟨decoder, s', []⟩ := ⟨rfl, alike, rfl⟩
  obtain ⟨result, twins⟩ := Run.matches_takePackets Run.simulation_twins start
    (fun position session session' device twins => by
      refine ⟨twins.decoder, twins.services, ?_⟩
      simp only [Run.emit, device, twins.positions])
    (fun packetId record twins => twins.send _ _) (Packet.readAll bytes).1
  simp only [decode]
  rw [result, twins.positions]
  exact ⟨rfl, twins.decoder, twins.services⟩

end Egts.Decoder

/-! ### Frames -/

namespace Watch.Peer

variable {δ μ : Type}

theorem reliable_interpret [MediaStore μ] {services : Services δ μ}
    (reliable : MediaStore.Reliable services.media) (receivedAt : Instant) (uniqueId : String)
    (device : DeviceId) (m : Message) :
    MediaStore.Reliable (interpret services receivedAt uniqueId device m).2.media := by
  unfold interpret
  cases m.kind with
  | image =>
    simp only
    cases m.imageData? with
    | none => exact reliable
    | some data => exact reliable.store uniqueId data "jpg"
  | voice => exact reliable.store uniqueId m.body "amr"
  | _ => exact reliable

theorem filter_map_toList (found : Except Error (Option Position)) :
    (found.map Option.toList).map (List.filter Position.isFix) =
      (found.map (Option.filter Position.isFix)).map Option.toList := by
  rcases found with _ | _ | p
  · rfl
  · rfl
  · simp only [Except.map, Option.toList, Option.filter, List.filter]
    cases p.isFix <;> rfl

/-- A message is always taken, and the fix that it tells is its own. -/
theorem filter_interpret [MediaStore μ] {services : Services δ μ}
    (reliable : MediaStore.Reliable services.media) (receivedAt : Instant) (uniqueId : String)
    (device : DeviceId) (m : Message) :
    (interpret services receivedAt uniqueId device m).1.map (Option.filter Position.isFix) =
      .ok (m.fix? device) := by
  have ok := isOk_interpret (fun uniqueId data extension => reliable [] uniqueId data extension)
    receivedAt uniqueId device m
  cases told : (interpret services receivedAt uniqueId device m).1 with
  | error error =>
    rw [told] at ok
    cases ok
  | ok found => exact congrArg Except.ok (tells_interpret told).filter_eq

variable [Directory δ] [MediaStore μ] {numbers : Numbers} {connection : ConnectionId}
  {s s' : Services δ μ}

theorem alike_answer (alike : s.Alike numbers connection s') (header : Header) (m : Message) :
    (answer s header m).Alike numbers connection (answer s' header m) := by
  unfold answer
  split
  · exact alike.respond _
  · exact alike

theorem sound_interpret (sound : s.Sound numbers) (receivedAt : Instant) (uniqueId : String)
    (device : DeviceId) (m : Message) :
    (interpret s receivedAt uniqueId device m).2.Sound numbers := by
  refine ⟨?_, reliable_interpret sound.media receivedAt uniqueId device m⟩
  rw [sessions_interpret]
  exact sound.sessions

theorem alike_interpret (alike : s.Alike numbers connection s') (receivedAt receivedAt' : Instant)
    (uniqueId : String) (device : DeviceId) (m : Message) :
    (interpret s receivedAt uniqueId device m).2.Alike numbers connection
      (interpret s' receivedAt' uniqueId device m).2 := by
  refine ⟨sound_interpret alike.left _ _ _ _, sound_interpret alike.right _ _ _ _, ?_, ?_⟩
  · have registry (s : Services δ μ) (receivedAt : Instant) :
        (interpret s receivedAt uniqueId device m).2.registry = s.registry :=
      congrArg Prod.fst (sessions_interpret s receivedAt uniqueId device m)
    rw [registry, registry]
    exact alike.session
  · rw [replies_interpret, replies_interpret]
    exact alike.replies

/-- A watch's decoder tells the same fixes whatever other connections have done, and whenever its
frame came. -/
theorem alike_decode (alike : s.Alike numbers connection s') (peer : Peer)
    (receivedAt receivedAt' : Instant) (frame : Bytes) :
    let (result, next, after) := peer.decode s connection receivedAt frame
    let (result', next', after') := peer.decode s' connection receivedAt' frame
    result'.map (List.filter Position.isFix) = result.map (List.filter Position.isFix) ∧
      next' = next ∧ after.Alike numbers connection after' := by
  unfold decode
  cases Header.scan? frame with
  | none => exact ⟨rfl, rfl, alike⟩
  | some header =>
    obtain ⟨same, after⟩ := alike.resolve .byConnection header.deviceId
    simp only
    generalize s.resolve .byConnection connection (some header.deviceId) = outcome at same after ⊢
    generalize s'.resolve .byConnection connection (some header.deviceId) = outcome' at same after ⊢
    obtain ⟨result, next⟩ := outcome
    obtain ⟨result', next'⟩ := outcome'
    cases same with
    | failed error => exact ⟨rfl, rfl, after⟩
    | unknown => exact ⟨rfl, rfl, after⟩
    | @found session session' device =>
      let m := Message.ofFrame header frame
      have answered := alike_answer after header m
      have fixes := filter_interpret answered.left.media receivedAt header.deviceId
        session.deviceId m
      have fixes' := filter_interpret answered.right.media receivedAt' header.deviceId
        session.deviceId m
      simp only [device, true_and]
      refine ⟨?_, alike_interpret answered receivedAt receivedAt' header.deviceId _ m⟩
      rw [filter_map_toList, filter_map_toList, fixes, fixes']

end Watch.Peer

/-! ### Units -/

/-- What a unit came to as far as it is the connection's own: of what a watch tells, the fixes. -/
def Protocol.own : Protocol → Except Error (List Position) → Except Error (List Position)
  | .egts, result => result
  | .watch, result => result.map (List.filter Position.isFix)

namespace Decoder

variable {δ μ : Type} [Directory δ] [MediaStore μ] {numbers : Numbers} {connection : ConnectionId}
  {s s' : Services δ μ}

theorem protocol_decode (decoder : Decoder) (s : Services δ μ) (connection : ConnectionId)
    (receivedAt : Instant) (unit : Bytes) :
    (decoder.decode s connection receivedAt unit).2.1.protocol = decoder.protocol := by
  cases decoder <;> rfl

/-- A decoder does the same with a unit over services that its connection cannot tell apart, and
leaves such services. -/
theorem alike_decode (alike : s.Alike numbers connection s') (decoder : Decoder)
    (receivedAt receivedAt' : Instant) (unit : Bytes) :
    let (result, next, after) := decoder.decode s connection receivedAt unit
    let (result', next', after') := decoder.decode s' connection receivedAt' unit
    decoder.protocol.own result' = decoder.protocol.own result ∧ next' = next ∧
      after.Alike numbers connection after' := by
  cases decoder with
  | egts state =>
    obtain ⟨result, next, after⟩ := state.alike_decode alike unit
    exact ⟨result, congrArg Decoder.egts next, after⟩
  | watch peer =>
    obtain ⟨result, next, after⟩ := peer.alike_decode alike receivedAt receivedAt' unit
    exact ⟨result, congrArg Decoder.watch next, after⟩

end Decoder

namespace Services.Sound

variable {δ μ : Type} [Directory δ] [MediaStore μ] {numbers : Numbers} {s : Services δ μ}

/-- No unit of any connection changes what others hear. -/
theorem decode (sound : s.Sound numbers) (decoder : Decoder) (connection : ConnectionId)
    (receivedAt : Instant) (unit : Bytes) :
    (decoder.decode s connection receivedAt unit).2.2.Sound numbers :=
  (decoder.alike_decode (sound.alike connection) receivedAt receivedAt unit).2.2.left

end Services.Sound

end TrackerGateway
