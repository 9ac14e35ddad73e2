import TrackerGateway.Proofs.Session.Resemblance
import TrackerGateway.Proofs.Watch.Device

/-!
# Frames that cannot be taken

Two things make the decoding of a frame fail, and both are told as they are: the directory fails
for a watch that has neither a session nor a number on record, or the media store refuses the
picture or the voice in the frame (`decode_eq_error_iff`). Where these say no more than that they
failed, no frame of any watch has a fatal error (`refused_of_decode`).
-/

namespace TrackerGateway

namespace Registry

variable {δ : Type} [Directory δ] {r : Registry} {directory : δ} {mode : SessionMode}
  {connection : ConnectionId} {uniqueId : String} {error : Error}

/-- The search for a session fails exactly where the directory has to be asked and fails. -/
theorem resolve_eq_error_iff :
    (r.resolve directory mode connection (some uniqueId)).1 = .error error ↔
      r.kept? mode connection uniqueId = none ∧ r.identity? uniqueId = none ∧
        (Directory.lookup directory uniqueId).1 = .failed error := by
  cases kept : r.kept? mode connection uniqueId with
  | some session => simp [resolve_of_kept kept]
  | none =>
    rw [resolve_of_new kept]
    cases recalled : r.identity? uniqueId with
    | some id => simp [identify_of_recalled recalled, settle]
    | none =>
      rw [identify_of_new recalled]
      cases (Directory.lookup directory uniqueId).1 <;> simp [ask, record, settle]

end Registry

theorem Services.resolve_eq_error_iff {δ μ : Type} [Directory δ] {services : Services δ μ}
    {mode : SessionMode} {connection : ConnectionId} {uniqueId : String} {error : Error} :
    (services.resolve mode connection (some uniqueId)).1 = .error error ↔
      services.registry.kept? mode connection uniqueId = none ∧
        services.registry.identity? uniqueId = none ∧
        (Directory.lookup services.directory uniqueId).1 = .failed error :=
  Registry.resolve_eq_error_iff

/-- A store that never changes is its answers. -/
instance : MediaStore (String → Bytes → String → Except Error String) :=
  ⟨fun answers uniqueId data extension => (answers uniqueId data extension, answers)⟩

/-- Whether a store that refuses data says only that. -/
def MediaStore.Plain {μ : Type} [MediaStore μ] (media : μ) : Prop :=
  ∀ (uniqueId : String) (data : Bytes) (extension : String) (error : Error),
    (store media uniqueId data extension).1 = .error error → ∃ reason, error = .media reason

namespace Watch

/-- What a message brings for the media store: data, and how their kind is written in a
reference. -/
def Message.upload? (m : Message) : Option (Bytes × String) :=
  match m.kind with
  | .image => m.imageData?.map (·, "jpg")
  | .voice => some (m.body, "amr")
  | _ => none

theorem map_eq_error_iff {α β : Type} {error : Error} {result : Except Error α} (f : α → β) :
    result.map f = .error error ↔ result = .error error := by
  cases result <;> simp [Except.map]

namespace Peer

variable {δ μ : Type} {services : Services δ μ} {error : Error}

variable [MediaStore μ]

theorem keep_eq_error_iff {uniqueId extension key : String} {data : Bytes} {status : Position} :
    (keep services uniqueId data extension key status).1 = .error error ↔
      (MediaStore.store services.media uniqueId data extension).1 = .error error :=
  map_eq_error_iff _

/-- A message cannot be taken exactly where the store refuses what it brings. -/
theorem interpret_eq_error_iff {receivedAt : Instant} {uniqueId : String} {device : DeviceId}
    {m : Message} :
    (interpret services receivedAt uniqueId device m).1 = .error error ↔
      ∃ data extension, m.upload? = some (data, extension) ∧
        (MediaStore.store services.media uniqueId data extension).1 = .error error := by
  unfold interpret Message.upload?
  cases m.kind with
  | image =>
    cases m.imageData? with
    | none => simp
    | some data => simp [keep_eq_error_iff]
  | voice => simp [keep_eq_error_iff]
  | _ => simp

variable [Directory δ] {peer : Peer} {connection : ConnectionId} {receivedAt : Instant}
  {frame : Bytes} {header : Header}

/-- Why a frame with this header cannot be taken. -/
inductive Refused (services : Services δ μ) (connection : ConnectionId) (header : Header)
    (m : Message) (error : Error) : Prop where
  /-- The directory had to be asked for the watch, and failed. -/
  | directory (new : services.registry.kept? .byConnection connection header.deviceId = none)
    (unnumbered : services.registry.identity? header.deviceId = none)
    (failed : (Directory.lookup services.directory header.deviceId).1 = .failed error)
  /-- The watch is known, and the store refused what its message brings. -/
  | store (resolves : services.Resolves connection header.deviceId) (data : Bytes)
    (extension : String) (brings : m.upload? = some (data, extension))
    (failed : (MediaStore.store services.media header.deviceId data extension).1 = .error error)

theorem decode_eq_error_iff :
    (peer.decode services connection receivedAt frame).1 = .error error ↔
      ∃ header, Header.scan frame = .complete header ∧
        Refused services connection header (Message.ofFrame header frame) error := by
  cases scanned : Header.scan frame with
  | incomplete | invalid => simp [decode, Header.scan?, scanned]
  | complete header =>
    simp only [Header.Scan.complete.injEq, exists_eq_left']
    by_cases resolves : services.Resolves connection header.deviceId
    · obtain ⟨session, after, resolved⟩ := resolves.exists_eq
      have media : after.media = services.media := congrArg (·.2.media) resolved.symm
      rw [decode_of_session scanned resolved, map_eq_error_iff, interpret_eq_error_iff,
        media_answer, media]
      constructor
      · rintro ⟨data, extension, brings, failed⟩
        exact .store resolves data extension brings failed
      · rintro (⟨new, unnumbered, failed⟩ | ⟨-, data, extension, brings, failed⟩)
        · have unanswered := Services.resolve_eq_error_iff.2 ⟨new, unnumbered, failed⟩
          rw [resolved] at unanswered
          cases unanswered
        · exact ⟨data, extension, brings, failed⟩
    · rw [decode_of_no_session scanned (not_exists.1 resolves), map_eq_error_iff,
        Services.resolve_eq_error_iff]
      constructor
      · rintro ⟨new, unnumbered, failed⟩
        exact .directory new unnumbered failed
      · rintro (⟨new, unnumbered, failed⟩ | ⟨known, -, -, -, -⟩)
        · exact ⟨new, unnumbered, failed⟩
        · exact absurd known resolves

/-- A frame cannot be taken exactly where the directory fails for its watch or the store refuses
what it brings. Where these say no more than that they failed, that is what is told, and it is not
fatal. -/
theorem refused_of_decode (peer : Peer) {services : Services δ μ}
    (directory : Directory.Plain services.directory) (media : MediaStore.Plain services.media)
    (connection : ConnectionId) (receivedAt : Instant) (frame : Bytes) (error : Error) :
    ((peer.decode services connection receivedAt frame).1 = .error error ↔
        ∃ header, Header.scan frame = .complete header ∧
          Refused services connection header (Message.ofFrame header frame) error) ∧
      ((peer.decode services connection receivedAt frame).1 = .error error →
        ((∃ reason, error = .directory reason) ∨ ∃ reason, error = .media reason) ∧
          error.isFatal = false) := by
  refine ⟨decode_eq_error_iff, fun failed => ?_⟩
  obtain ⟨header, -, refused⟩ := decode_eq_error_iff.1 failed
  cases refused with
  | directory new unnumbered unanswered =>
    obtain ⟨reason, rfl⟩ := directory [] header.deviceId error unanswered
    exact ⟨.inl ⟨reason, rfl⟩, rfl⟩
  | store resolves data extension brings unstored =>
    obtain ⟨reason, rfl⟩ := media header.deviceId data extension error unstored
    exact ⟨.inr ⟨reason, rfl⟩, rfl⟩

/-- Services whose directory fails for one watch and whose store refuses everything. -/
def brokenServices :
    Services (String → Lookup) (String → Bytes → String → Except Error String) where
  registry := .empty
  directory uniqueId := if uniqueId = "1" then .failed (.directory "down") else .known ⟨42⟩
  media _ _ _ := .error (.media "disk full")
  replies := []

theorem plain_brokenServices :
    Directory.Plain brokenServices.directory ∧ MediaStore.Plain brokenServices.media := by
  constructor
  · apply Directory.plain_answers
    intro uniqueId error failed
    simp only [brokenServices] at failed
    split at failed <;> cases failed
    exact ⟨"down", rfl⟩
  · rintro uniqueId data extension error ⟨⟩
    exact ⟨"disk full", rfl⟩

/-- The voice of a watch that is known cannot be kept. -/
theorem refused_of_voice :
    let frame := "[3G*2*0005*TK,ab]".toUTF8.toList
    let refusal := Error.media "disk full"
    Directory.Plain brokenServices.directory ∧ MediaStore.Plain brokenServices.media ∧
      (unknown.decode brokenServices ⟨0⟩ ⟨0, 0⟩ frame).1 = .error refusal ∧
      refusal.isFatal = false := by
  intro frame refusal
  obtain ⟨directory, media⟩ := plain_brokenServices
  have scanned : Header.scan frame = .complete ⟨"3G", "2", none, 5, 11⟩ := by decide +kernel
  have message : Message.ofFrame ⟨"3G", "2", none, 5, 11⟩ frame = ⟨"TK", [97, 98]⟩ := by
    decide +kernel
  have refused : Refused brokenServices ⟨0⟩ ⟨"3G", "2", none, 5, 11⟩
      (Message.ofFrame ⟨"3G", "2", none, 5, 11⟩ frame) refusal := by
    rw [message]
    exact .store ⟨_, rfl⟩ _ _ rfl rfl
  obtain ⟨told, calm⟩ := refused_of_decode unknown directory media ⟨0⟩ ⟨0, 0⟩ frame refusal
  have failed := told.2 ⟨_, scanned, refused⟩
  exact ⟨directory, media, failed, (calm failed).2⟩

/-- A keep-alive for whose watch the directory fails has an error, which tells neither that the
stream cannot be cut nor that the decoder was set up wrongly. -/
theorem not_fatal_of_decode :
    Directory.Plain brokenServices.directory ∧ MediaStore.Plain brokenServices.media ∧
      ¬ ∀ frame error, (unknown.decode brokenServices ⟨0⟩ ⟨0, 0⟩ frame).1 = .error error →
        (∃ declared available, error = .protocol (.framingDesync declared available)) ∨
          ∃ reason, error = .protocol (.misconfigured reason) := by
  refine ⟨plain_brokenServices.1, plain_brokenServices.2, fun contract => ?_⟩
  have scanned : Header.scan "[3G*1*0002*LK]".toUTF8.toList =
      .complete ⟨"3G", "1", none, 2, 11⟩ := by
    decide +kernel
  have failed : (unknown.decode brokenServices ⟨0⟩ ⟨0, 0⟩ "[3G*1*0002*LK]".toUTF8.toList).1 =
      .error (.directory "down") :=
    decode_eq_error_iff.2 ⟨_, scanned, .directory rfl rfl rfl⟩
  rcases contract _ _ failed with ⟨_, _, ⟨⟩⟩ | ⟨_, ⟨⟩⟩

end Peer
end Watch
end TrackerGateway
