import TrackerGateway.Proofs.Egts.Course
import TrackerGateway.Proofs.Egts.Simulation
import TrackerGateway.Protocol

/-!
# What no unit can undo

Decoders touch sessions in one way only: they name identifiers. So what naming an identifier
cannot lose (`Sessions.Lasting`) no unit loses, whatever it is, whether or not it can be decoded
and whatever the directory answers (`Decoder.keeps_decode`). A connection that has a session keeps
one, and the units of one connection leave the sessions of all others as they are.
-/

namespace TrackerGateway

namespace Registry

theorem sessionOf?_release (r : Registry) (connection other : ConnectionId) :
    (r.release connection).2.sessionOf? other =
      if connection = other then none else r.sessionOf? other := by
  unfold release
  split
  · exact Table.get?_erase _ _ _
  · rename_i unbound
    rw [Table.holds, Bool.not_eq_true, Option.isSome_eq_false_iff,
      Option.isNone_iff_eq_none] at unbound
    split
    · rename_i same
      rw [← same]
      exact unbound
    · rfl

theorem sessionOf?_updateLast (r : Registry) (position : Position) (connection : ConnectionId) :
    (r.updateLast position).sessionOf? connection = r.sessionOf? connection := by
  unfold updateLast
  split <;> rfl

variable {δ : Type} [Directory δ] {r r' : Registry} {directory directory' : δ}

theorem Identified.sessionOf?_eq {uniqueId : String} {asker : Option ConnectionId}
    {result : Except Error (Option DeviceId)}
    (h : Identified r directory uniqueId asker (result, r', directory')) (other : ConnectionId) :
    r'.sessionOf? other = r.sessionOf? other := by
  cases h <;> rfl

/-- Of all connections only the one that named the identifier may have another session then. -/
theorem sessionOf?_resolve_of_ne {mode : SessionMode} {connection other : ConnectionId}
    (different : connection ≠ other) (uniqueId : String) :
    (r.resolve directory mode connection (some uniqueId)).2.1.sessionOf? other =
      r.sessionOf? other := by
  have resolved := r.resolved directory mode connection uniqueId
  generalize r.resolve directory mode connection (some uniqueId) = outcome at resolved ⊢
  cases resolved with
  | kept => rfl
  | unknown _ _ _ identified => exact identified.sessionOf?_eq other
  | failed _ _ _ _ identified => exact identified.sessionOf?_eq other
  | bound id between _ _ identified =>
    rw [← identified.sessionOf?_eq other]
    cases mode with
    | byIdentifier => rfl
    | byConnection =>
      simp only [bind, bindConnection, log, sessionOf?, Table.get?_put, different, if_false]

/-- A connection that has a session has one once it has named an identifier. -/
theorem isSome_sessionOf?_resolve {mode : SessionMode} {connection : ConnectionId}
    (uniqueId : String) (had : (r.sessionOf? connection).isSome = true) :
    ((r.resolve directory mode connection (some uniqueId)).2.1.sessionOf? connection).isSome =
      true := by
  have resolved := r.resolved directory mode connection uniqueId
  generalize r.resolve directory mode connection (some uniqueId) = outcome at resolved ⊢
  cases resolved with
  | kept => exact had
  | unknown _ _ _ identified =>
    rw [identified.sessionOf?_eq]
    exact had
  | failed _ _ _ _ identified =>
    rw [identified.sessionOf?_eq]
    exact had
  | bound id between _ _ identified =>
    cases mode with
    | byIdentifier =>
      rw [← identified.sessionOf?_eq] at had
      exact had
    | byConnection =>
      simp only [bind, bindConnection, log, sessionOf?, Table.get?_put, if_true, Option.isSome_some]

end Registry

namespace Sessions

variable {δ : Type} [Directory δ]

/-- Whether sessions keep a property whatever identifiers a connection names. -/
def Lasting (connection : ConnectionId) (keeps : Sessions δ → Prop) : Prop :=
  ∀ s mode uniqueId, keeps s → keeps (s.named mode connection uniqueId)

theorem lasting_isSome (connection : ConnectionId) :
    Lasting connection fun s : Sessions δ => (s.device? connection).isSome = true := by
  intro s mode uniqueId had
  rw [device?, Option.isSome_map] at had ⊢
  exact Registry.isSome_sessionOf?_resolve uniqueId had

theorem lasting_of_ne {connection other : ConnectionId} (different : connection ≠ other)
    (session : Option Session) :
    Lasting connection fun s : Sessions δ => s.1.sessionOf? other = session := by
  intro s mode uniqueId same
  rw [named, Registry.sessionOf?_resolve_of_ne different]
  exact same

end Sessions

/-! ### Packets -/

namespace Egts.Decoder

variable {δ μ : Type} [Directory δ] {connection : ConnectionId}

namespace Run

theorem lasting_sessions {keeps : Sessions δ → Prop} (lasting : Sessions.Lasting connection keeps) :
    Lasting connection fun run : Run δ μ => keeps run.sessions where
  resolve run uniqueId h := lasting run.sessions run.decoder.mode uniqueId h
  confirm _ _ h := h

theorem lasting_mode (connection : ConnectionId) (mode : SessionMode) :
    Lasting connection fun run : Run δ μ => run.decoder.mode = mode where
  resolve _ _ h := h
  confirm _ _ h := h

theorem lasting_positions (connection : ConnectionId) (positions : List Position) :
    Lasting connection fun run : Run δ μ => run.positions = positions where
  resolve _ _ h := h
  confirm _ _ h := h

end Run

theorem keeps_decode {keeps : Sessions δ → Prop} (lasting : Sessions.Lasting connection keeps)
    (decoder : Decoder) {services : Services δ μ} (h : keeps services.sessions) (bytes : Bytes) :
    keeps (decoder.decode services connection bytes).2.2.sessions := by
  let run : Run δ μ := ⟨decoder, services, []⟩
  have start : keeps run.sessions := h
  have taken := Run.keeps_takePackets (Run.lasting_sessions lasting) start (fun _ _ _ kept => kept)
    (fun _ _ _ kept => kept) (Packet.readAll bytes).1
  simp only [decode]
  exact taken

end Egts.Decoder

/-! ### Frames -/

namespace Watch.Peer

variable {δ μ : Type}

theorem sessions_answer (services : Services δ μ) (header : Header) (m : Message) :
    (answer services header m).sessions = services.sessions := by
  unfold answer
  split <;> rfl

theorem media_answer (services : Services δ μ) (header : Header) (m : Message) :
    (answer services header m).media = services.media := by
  unfold answer
  split <;> rfl

/-- What a message brings may go to the media store. Nothing else of the services changes. -/
theorem exists_media_interpret [MediaStore μ] (services : Services δ μ) (receivedAt : Instant)
    (uniqueId : String) (device : DeviceId) (m : Message) :
    ∃ media, (interpret services receivedAt uniqueId device m).2 = { services with media } := by
  unfold interpret
  cases m.kind with
  | image =>
    simp only
    cases m.imageData? <;> exact ⟨_, rfl⟩
  | _ => exact ⟨_, rfl⟩

theorem sessions_interpret [MediaStore μ] (services : Services δ μ) (receivedAt : Instant)
    (uniqueId : String) (device : DeviceId) (m : Message) :
    (interpret services receivedAt uniqueId device m).2.sessions = services.sessions := by
  obtain ⟨media, after⟩ := exists_media_interpret services receivedAt uniqueId device m
  rw [after]
  rfl

theorem replies_interpret [MediaStore μ] (services : Services δ μ) (receivedAt : Instant)
    (uniqueId : String) (device : DeviceId) (m : Message) :
    (interpret services receivedAt uniqueId device m).2.replies = services.replies := by
  obtain ⟨media, after⟩ := exists_media_interpret services receivedAt uniqueId device m
  rw [after]

variable [Directory δ] [MediaStore μ]

theorem keeps_decode {keeps : Sessions δ → Prop} {connection : ConnectionId}
    (lasting : Sessions.Lasting connection keeps) (peer : Peer) {services : Services δ μ}
    (h : keeps services.sessions) (receivedAt : Instant) (frame : Bytes) :
    keeps (peer.decode services connection receivedAt frame).2.2.sessions := by
  unfold decode
  split
  · exact h
  · rename_i header scanned
    have named : keeps
        (services.resolve .byConnection connection (some header.deviceId)).2.sessions :=
      lasting services.sessions .byConnection header.deviceId h
    generalize services.resolve .byConnection connection (some header.deviceId) = outcome at named ⊢
    obtain ⟨result, services'⟩ := outcome
    cases result with
    | error error => exact named
    | ok found =>
      cases found with
      | none => exact named
      | some session =>
        simp only
        rw [sessions_interpret, sessions_answer]
        exact named

end Watch.Peer

namespace Decoder

variable {δ μ : Type} [Directory δ] [MediaStore μ]

/-- No unit loses what naming an identifier cannot lose. -/
theorem keeps_decode {keeps : Sessions δ → Prop} {connection : ConnectionId}
    (lasting : Sessions.Lasting connection keeps) (decoder : Decoder) {services : Services δ μ}
    (h : keeps services.sessions) (receivedAt : Instant) (unit : Bytes) :
    keeps (decoder.decode services connection receivedAt unit).2.2.sessions := by
  cases decoder with
  | egts state => exact state.keeps_decode lasting h unit
  | watch peer => exact peer.keeps_decode lasting h receivedAt unit

end Decoder
end TrackerGateway
