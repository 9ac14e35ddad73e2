import TrackerGateway.Proofs.Watch.Datagram
import TrackerGateway.Proofs.Watch.Device
import TrackerGateway.Proofs.Watch.Writing

/-!
# Pictures and voice messages, from the watch to the store

The data of an attachment may hold every octet that has a meaning in a frame. They are written as
pairs, put back when the frame is cut out of a stream or taken from a datagram, and found in the
content behind fields of a known length. So what the store has under the reference in the position
is what the watch had (`kept_of_frame`). In a datagram pairs are put back in the header too, so it
may have none there.
-/

namespace TrackerGateway.Watch

/-- What a watch sends to be kept. -/
inductive Attachment where
  /-- A picture, with its number and its time. -/
  | image (number time : Bytes)
  | voice
  deriving DecidableEq, Repr

namespace Attachment

/-- The content of the frame. -/
def content (data : Bytes) : Attachment → Bytes
  | image number time =>
    Utf8.encode "img" ++ comma :: (number ++ comma :: (time ++ comma :: data))
  | voice => Utf8.encode "TK" ++ comma :: data

/-- Whether number and time have the form they should: digits for the number, as far as it
matters, and twelve octets for the time. -/
def WellFormed : Attachment → Prop
  | image number time => comma ∉ number ∧ time.length = 12
  | voice => True

/-- The attribute that the reference goes into. -/
def key : Attachment → String
  | image .. => "image"
  | voice => "audio"

/-- The message in the content. -/
def message (data : Bytes) : Attachment → Message
  | image number time => ⟨"img", number ++ comma :: (time ++ comma :: data)⟩
  | voice => ⟨"TK", data⟩

theorem ofContent_content (a : Attachment) (data : Bytes) :
    Message.ofContent (a.content data) = a.message data := by
  cases a with
  | image number time =>
    have clear : comma ∉ Utf8.encode "img" := by decide +kernel
    rw [content, Message.ofContent, Bytes.cut?_of_notMem _ clear]
    simp only [Utf8.decodeLossy_encode]
    rfl
  | voice =>
    have clear : comma ∉ Utf8.encode "TK" := by decide +kernel
    rw [content, Message.ofContent, Bytes.cut?_of_notMem _ clear]
    simp only [Utf8.decodeLossy_encode]
    rfl

theorem imageData?_message {number time : Bytes} (wellFormed : (image number time).WellFormed)
    (data : Bytes) : ((image number time).message data).imageData? = some data := by
  obtain ⟨clear, twelve⟩ := wellFormed
  have long : Message.imageTimeLength ≤ (time ++ comma :: data).length := by
    rw [Message.imageTimeLength, List.length_append, List.length_cons]
    omega
  have past : (time ++ comma :: data).drop Message.imageTimeLength = data := by
    rw [Message.imageTimeLength, List.drop_append, List.drop_eq_nil_of_le (by omega), twelve]
    rfl
  rw [Message.imageData?, message, Bytes.cut?_of_notMem _ clear]
  simp only [if_pos long, past]

/-- No attachment is taken for a length. -/
theorem startsWithLength_content (a : Attachment) (data : Bytes) :
    Header.startsWithLength (a.content data) = false := by
  have type : ∃ octet rest, a.content data = octet :: rest ∧ Hex.isDigitByte octet = false := by
    cases a with
    | image number time => exact ⟨105, _, rfl, by decide⟩
    | voice => exact ⟨84, _, rfl, by decide⟩
  obtain ⟨octet, rest, shape, noDigit⟩ := type
  rw [shape, Header.startsWithLength, List.take_succ_cons, List.all_cons, noDigit, Bool.false_and,
    Bool.and_false]

end Attachment

/-! ### The frame -/

/-- The content of a frame is found in it again. -/
theorem Frame.Fields.contentOf_resolved (f : Frame.Fields) :
    Message.contentOf f.header f.resolved = f.content := by
  have rest : f.resolved.drop f.head.length = f.content ++ [closing] := by
    rw [resolved, List.append_assoc, List.drop_left]
  rw [Message.contentOf, header_contentStart, rest]
  simp

namespace Frame

variable (f : Frame)

/-- A datagram with a frame, whose header has no pair in it, is the frame with its content as it
is. -/
theorem datagramUnit_wire (clear : unescape f.head = f.head) :
    Protocol.watch.datagramUnit f.wire = f.resolved := by
  have taken := takeResolved_of_writes f.body_writes [] [closing]
  have body := unescape_of_takeResolved taken
  obtain ⟨front, ends⟩ : ∃ front, f.head = front ++ [star] := ⟨_, rfl⟩
  have split : f.wire = front ++ star :: (f.body ++ [closing]) := by
    simp [Fields.wire, ends]
  show unescape f.wire = f.resolved
  rw [split, unescape_append_cons (by decide), ← ends, clear, Fields.resolved, List.append_assoc]
  exact congrArg (f.head ++ ·) body

end Frame

namespace Peer

variable {δ : Type}

/-- What is kept in memory is found there under its reference. -/
theorem exists_keep (services : Services δ MediaLibrary) (uniqueId : String) (data : Bytes)
    (extension key : String) (status : Position) :
    ∃ reference,
      (keep services uniqueId data extension key status).1 =
          .ok (some (status.set key (.text reference))) ∧
        (keep services uniqueId data extension key status).2.media.get? reference = some data := by
  refine ⟨MediaLibrary.reference uniqueId (services.media.stored + 1) extension, rfl, ?_⟩
  show Table.get? (Table.put _ _ _) _ = _
  rw [Table.get?_put, if_pos rfl]

/-- An attachment is kept, and its message has the reference to it. -/
theorem exists_interpret {a : Attachment} (wellFormed : a.WellFormed) (data : Bytes)
    (services : Services δ MediaLibrary) (receivedAt : Instant) (uniqueId : String)
    (device : DeviceId) :
    ∃ position reference,
      (interpret services receivedAt uniqueId device (a.message data)).1 = .ok (some position) ∧
        position.get? a.key = some (.text reference) ∧
        (interpret services receivedAt uniqueId device (a.message data)).2.media.get? reference =
          some data := by
  cases a with
  | image number time =>
    have here := Attachment.imageData?_message wellFormed data
    have kind : ((Attachment.image number time).message data).kind = .image := rfl
    have kept := exists_keep services uniqueId data "jpg" "image" (status services device none)
    obtain ⟨reference, told, found⟩ := kept
    rw [interpret, kind]
    simp only [here]
    refine ⟨_, reference, told, ?_, found⟩
    exact (Table.get?_put _ _ _ _).trans (if_pos rfl)
  | voice =>
    have kept := exists_keep services uniqueId data "amr" "audio" (status services device none)
    obtain ⟨reference, told, found⟩ := kept
    refine ⟨_, reference, told, ?_, found⟩
    exact (Table.get?_put _ _ _ _).trans (if_pos rfl)

variable [Directory δ]

theorem exists_decode_resolved {f : Frame.Fields} (legible : f.Legible) {a : Attachment}
    (wellFormed : a.WellFormed) {data : Bytes} (content : f.content = a.content data) (peer : Peer)
    {services : Services δ MediaLibrary}
    (knows : Directory.Knows services.directory (Utf8.decodeLossy f.deviceId))
    (connection : ConnectionId) (receivedAt : Instant) :
    ∃ position reference,
      (peer.decode services connection receivedAt f.resolved).1 = .ok [position] ∧
        position.get? a.key = some (.text reference) ∧
        (peer.decode services connection receivedAt f.resolved).2.2.media.get? reference =
          some data := by
  have scanned : Header.scan f.resolved = .complete f.header := by
    apply legible.scan_resolved
    intro _
    rw [content]
    exact a.startsWithLength_content data
  have message : Message.ofFrame f.header f.resolved = a.message data := by
    rw [Message.ofFrame, f.contentOf_resolved, content, a.ofContent_content]
  have resolves : services.Resolves connection f.header.deviceId :=
    Services.resolves_of_knows knows connection
  obtain ⟨session, after, resolved⟩ := resolves.exists_eq
  obtain ⟨position, reference, told, referred, found⟩ := exists_interpret wellFormed data
    (answer after f.header (a.message data)) receivedAt f.header.deviceId session.deviceId
  refine ⟨position, reference, ?_, referred, ?_⟩
  · simp only [decode_of_session scanned resolved, message, told]
    rfl
  · simp only [decode_of_session scanned resolved, message]
    exact found

/-- An attachment of a known watch comes out of a stream, however that is divided, and out of a
datagram if its header has no pair in it, as one frame. It makes one position, which has a
reference to the data as the watch had them. -/
theorem kept_of_frame (f : Frame) {a : Attachment} (wellFormed : a.WellFormed) {data : Bytes}
    (content : f.content = a.content data) (peer : Peer) {services : Services δ MediaLibrary}
    (knows : Directory.Knows services.directory (Utf8.decodeLossy f.deviceId))
    (connection : ConnectionId) (receivedAt : Instant) :
    (∀ chunks : List Bytes, chunks.flatten = f.wire →
        Protocol.watch.framing.feedAll [] chunks = ⟨[f.resolved], [], none⟩) ∧
      (unescape f.head = f.head → Protocol.watch.datagramUnit f.wire = f.resolved) ∧
      ∃ position reference,
        (peer.decode services connection receivedAt f.resolved).1 = .ok [position] ∧
          position.get? a.key = some (.text reference) ∧
          (peer.decode services connection receivedAt f.resolved).2.2.media.get? reference =
            some data := by
  refine ⟨?_, f.datagramUnit_wire,
    exists_decode_resolved f.legible wellFormed content peer knows connection receivedAt⟩
  intro chunks whole
  refine Framing.feedAll_of_carries delivers_frames ⟨[f], rfl, ?_⟩
  rw [whole]
  exact f.carries_wire

/-- Data with all octets that have a meaning in a frame, and a code behind a mark. -/
def sampleData : Bytes := [0x5B, 0x5D, 0x7D, 3, 0x2C, 0x2A, 0]

/-- The data as a picture of any manufacturer, in a frame with an index. -/
def samplePicture (first second : UInt8) : Frame where
  first := first
  second := second
  deviceId := "861000002".toUTF8.toList
  index := some "000B".toUTF8.toList
  digits := "001A".toUTF8.toList
  content := (Attachment.image [53] "220322101500".toUTF8.toList).content sampleData
  body := "img,5,220322101500,".toUTF8.toList ++ Escape.paired sampleData
  deviceId_ne_nil := by decide +kernel
  star_notMem_deviceId := by decide +kernel
  star_notMem_index := by decide +kernel
  content_le := by decide +kernel
  digits_write := by
    have written : "001A".toUTF8.toList = [48, 48, 49, 65] := by decide +kernel
    rw [written]
    exact .cons (by decide +kernel) (.cons (by decide +kernel) (.cons (by decide +kernel)
      (.cons (by decide +kernel) .nil)))
  body_writes := by
    have front : (Attachment.image [53] "220322101500".toUTF8.toList).content sampleData =
        "img,5,220322101500,".toUTF8.toList ++ sampleData := by
      decide +kernel
    rw [front]
    exact (Escape.writes_self (by decide +kernel)).append (Escape.writes_paired _)
  head_le := by
    rw [Frame.Fields.length_head]
    dsimp only
    decide +kernel

/-- The picture in two parts of a stream, divided inside of a pair. -/
theorem kept_of_samplePicture :
    let f := samplePicture 51 71
    let a := Attachment.image [53] "220322101500".toUTF8.toList
    let told := unknown.decode sampleServices ⟨0⟩ ⟨0, 0⟩ f.resolved
    a.WellFormed ∧ f.content = a.content sampleData ∧
      Protocol.watch.framing.feedAll [] [f.wire.take 48, f.wire.drop 48] =
        ⟨[f.resolved], [], none⟩ ∧
      Protocol.watch.datagramUnit f.wire = f.resolved ∧
      ∃ position reference, told.1 = .ok [position] ∧
        position.get? "image" = some (.text reference) ∧
        told.2.2.media.get? reference = some sampleData := by
  intro f a told
  have wellFormed : a.WellFormed := ⟨by decide, by decide +kernel⟩
  have knows : Directory.Knows sampleServices.directory (Utf8.decodeLossy f.deviceId) := ⟨_, rfl⟩
  obtain ⟨streamed, sent, kept⟩ := kept_of_frame f wellFormed rfl unknown knows ⟨0⟩ ⟨0, 0⟩
  refine ⟨wellFormed, rfl, streamed _ ?_, sent (by decide +kernel), kept⟩
  simp

/-- A manufacturer that looks like a pair is one octet once a datagram is taken for a frame, and
nothing comes of the picture. -/
theorem not_kept_of_datagram :
    let f := samplePicture 0x7D 2
    let a := Attachment.image [53] "220322101500".toUTF8.toList
    a.WellFormed ∧ f.content = a.content sampleData ∧
      (∀ octet ∈ f.deviceId, 48 ≤ octet ∧ octet ≤ 57) ∧
      Directory.Knows sampleServices.directory (Utf8.decodeLossy f.deviceId) ∧
      (unknown.decode sampleServices ⟨0⟩ ⟨0, 0⟩ (Protocol.watch.datagramUnit f.wire)).1 =
          .ok [] := by
  intro f a
  have unread : Header.scan (Protocol.watch.datagramUnit f.wire) = .invalid := by decide +kernel
  refine ⟨⟨by decide, by decide +kernel⟩, rfl, by decide +kernel, ⟨_, rfl⟩, ?_⟩
  rw [decode, Header.scan?, unread]

end Peer

end TrackerGateway.Watch
