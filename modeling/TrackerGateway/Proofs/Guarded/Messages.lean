import TrackerGateway.Proofs.Guarded.Header
import TrackerGateway.Proofs.Guarded.Reports
import TrackerGateway.Watch.Decoder

/-!
# Decoding frames of watches by place

A content is what stands between two places of a frame, its message is divided at the place of a
comma, and what a message tells is taken from values by their number. No place of these is outside
of what it is a place in, and a frame comes to what `Peer.decode` makes of it
(`Checked.decode_eq`), whatever its octets are.
-/

namespace TrackerGateway

/-- Dividing at a separator is dividing at the place where it first is. -/
theorem Bytes.cut?_eq_findIdx? (stop : UInt8) (octets : Bytes) :
    cut? stop octets = (octets.findIdx? (· == stop)).map fun place =>
      (octets.take place, octets.drop (place + 1)) := by
  cases cut : cut? stop octets with
  | none => rw [Guarded.findIdx?_of_notMem (notMem_of_cut?_eq_none cut), Option.map_none]
  | some parts =>
    obtain ⟨front, rest⟩ := parts
    obtain ⟨rfl, absent⟩ := cut?_eq_some cut
    rw [Guarded.findIdx?_append_cons absent, Option.map_some, List.take_left, ← List.drop_drop,
      List.drop_left]
    rfl

namespace Watch.Checked

open Guarded

/-! ### Messages -/

/-- The entries between two places, where they are places in order. -/
def between? (octets : Bytes) (first last : Nat) : Option Bytes :=
  if first ≤ last ∧ last ≤ octets.length then some ((octets.drop first).take (last - first))
  else none

/-- The content of a frame, without its header and the bracket that closes it. -/
def contentOf (header : Header) (frame : Bytes) : Guarded Bytes := do
  if frame.getLast? = some closing then
    let last ← less frame.length 1
    pure ((between? frame header.contentStart last).getD [])
  else pure ((between? frame header.contentStart frame.length).getD [])

/-- The message in a content. -/
def ofContent (content : Bytes) : Guarded Message :=
  match content.findIdx? (· == comma) with
  | some place => do
    let type ← slice content 0 place
    let body ← after content (← word (place + 1))
    pure ⟨Utf8.decodeLossy type, body⟩
  | none => do
    let body ← after content content.length
    pure ⟨Utf8.decodeLossy content, body⟩

/-- The status message of a keep-alive that has the values for it. -/
def keepAliveStatus? (m : Message) (status : Position) : Guarded (Option Position) := do
  if m.body.isEmpty = false ∧ 3 ≤ m.values.length then
    let steps ← entry m.values 0
    let battery ← entry m.values 2
    pure (some ((status.set? "steps" (reading? (some steps))).set? "batteryLevel"
      (reading? (some battery))))
  else pure none

/-- The data of an image, after its number and its time. -/
def imageData? (m : Message) : Guarded (Option Bytes) :=
  match m.body.findIdx? (· == comma) with
  | some place => do
    let time ← word (place + 12)
    let first ← word (time + 2)
    pure (if first ≤ m.body.length then some (m.body.drop first) else none)
  | none => pure none

theorem between?_of_length_le {octets : Bytes} {first : Nat} (outside : octets.length ≤ first)
    (last : Nat) : (between? octets first last).getD [] = [] := by
  rw [between?, List.drop_eq_nil_of_le outside, List.take_nil]
  split <;> rfl

theorem contentOf_eq (header : Header) (frame : Bytes) :
    contentOf header frame = .ok (Message.contentOf header frame) := by
  rw [contentOf, Message.contentOf]
  obtain inside | outside := Nat.lt_or_ge header.contentStart frame.length
  · have last : (frame.drop header.contentStart).getLast? = frame.getLast? := by
      rw [List.getLast?_drop, if_neg (Nat.not_le.2 inside)]
    rw [last]
    split
    · rw [less_of_le (Nat.one_le_of_lt inside), ok_bind, between?, if_pos ⟨by omega, by omega⟩,
        List.dropLast_eq_take, List.length_drop, Nat.sub_right_comm]
      rfl
    · rw [between?, if_pos ⟨Nat.le_of_lt inside, Nat.le_refl _⟩,
        List.take_of_length_le (Nat.le_of_eq List.length_drop)]
      rfl
  · rw [List.drop_eq_nil_of_le outside, between?_of_length_le outside]
    split
    · rename_i closed
      rw [less_of_le (List.length_pos_of_mem (List.mem_of_getLast? closed)), ok_bind,
        between?_of_length_le outside]
      rfl
    · rfl

theorem ofContent_eq {content : Bytes} (held : content.length < 2 ^ 63) :
    ofContent content = .ok (Message.ofContent content) := by
  rw [ofContent, Message.ofContent, Bytes.cut?_eq_findIdx?]
  cases found : content.findIdx? (· == comma) with
  | none =>
    dsimp only
    rw [after_of_le (Nat.le_refl _), List.drop_length]
    rfl
  | some place =>
    have inside := (List.findIdx?_eq_some_iff_findIdx_eq.1 found).1
    dsimp only
    rw [slice_of_le (Nat.zero_le _) (Nat.le_of_lt inside), ok_bind, word_of_lt (by omega), ok_bind,
      after_of_le (by omega)]
    rfl

theorem keepAliveStatus?_eq (m : Message) (status : Position) :
    keepAliveStatus? m status = .ok (m.keepAliveStatus? status) := by
  unfold keepAliveStatus? Message.keepAliveStatus?
  cases empty : m.body.isEmpty with
  | true => rfl
  | false =>
    match made : m.values with
    | steps :: other :: battery :: more =>
      rw [if_pos ⟨rfl, by simp⟩]
      rfl
    | [] | [_] | [_, _] => rfl

theorem imageData?_eq {m : Message} (held : m.body.length < 2 ^ 63) :
    imageData? m = .ok m.imageData? := by
  rw [imageData?, Message.imageData?, Bytes.cut?_eq_findIdx?]
  cases found : m.body.findIdx? (· == comma) with
  | none => rfl
  | some place =>
    have inside := (List.findIdx?_eq_some_iff_findIdx_eq.1 found).1
    dsimp only [Option.map_some]
    rw [word_of_lt (by omega), ok_bind, word_of_lt (by omega), ok_bind, Message.imageTimeLength,
      List.length_drop, List.drop_drop]
    by_cases enough : place + 12 + 2 ≤ m.body.length
    · rw [if_pos enough, if_pos (by omega)]
      rfl
    · rw [if_neg enough, if_neg (by omega)]
      rfl

/-! ### Frames -/

variable {δ μ : Type}

/-- What a message of a device tells. -/
def interpret [MediaStore μ] (services : Services δ μ) (receivedAt : Instant) (uniqueId : String)
    (device : DeviceId) (m : Message) : Guarded (Except Error (Option Position) × Services δ μ) :=
  match m.kind with
  | .keepAlive => do
    let told ← keepAliveStatus? m (Peer.status services device none)
    pure (.ok told, services)
  | .report | .alarm => do
    let told ← position? m.text
    pure (.ok (told.map fun p => { p with deviceId := device }), services)
  | .heartRate =>
    pure (.ok (m.heartRateStatus? (Peer.status services device (some receivedAt))), services)
  | .bloodPressure =>
    pure (.ok (m.bloodPressureStatus? (Peer.status services device (some receivedAt))), services)
  | .image => do
    match ← imageData? m with
    | some data =>
      pure (Peer.keep services uniqueId data "jpg" "image" (Peer.status services device none))
    | none => pure (.ok none, services)
  | .voice =>
    pure (Peer.keep services uniqueId m.body "amr" "audio" (Peer.status services device none))
  | .hello | .check | .other => pure (.ok none, services)

/-- Decodes a frame of a connection, which came at some time. -/
def decode [Directory δ] [MediaStore μ] (peer : Peer) (services : Services δ μ)
    (connection : ConnectionId) (receivedAt : Instant) (frame : Bytes) :
    Guarded (Except Error (List Position) × Peer × Services δ μ) := do
  match ← Header.Checked.scan frame with
  | .complete header =>
    let peer := peer.heard header
    match services.resolve .byConnection connection (some header.deviceId) with
    | (.error error, services) => pure (.error error, peer, services)
    | (.ok none, services) => pure (.ok [], peer, services)
    | (.ok (some session), services) =>
      let content ← contentOf header frame
      let m ← ofContent content
      let (found, services) ←
        interpret (Peer.answer services header m) receivedAt header.deviceId session.deviceId m
      pure (found.map Option.toList, peer.identified header, services)
  | _ => pure (.ok [], peer, services)

theorem interpret_eq [MediaStore μ] (services : Services δ μ) (receivedAt : Instant)
    (uniqueId : String) (device : DeviceId) {m : Message} (held : m.body.length < 2 ^ 63) :
    interpret services receivedAt uniqueId device m =
      .ok (Peer.interpret services receivedAt uniqueId device m) := by
  have text : m.text.length < 2 ^ 63 := Nat.lt_of_le_of_lt (Utf8.length_decodeLossy_le m.body) held
  rw [interpret, Peer.interpret]
  cases m.kind with
  | keepAlive =>
    dsimp only
    rw [keepAliveStatus?_eq]
    rfl
  | report | alarm =>
    dsimp only
    rw [position?_eq text]
    rfl
  | image =>
    dsimp only
    rw [imageData?_eq held, ok_bind]
    cases m.imageData? <;> rfl
  | hello | check | heartRate | bloodPressure | voice | other => rfl

theorem length_contentOf_le (header : Header) (frame : Bytes) :
    (Message.contentOf header frame).length ≤ frame.length := by
  rw [Message.contentOf]
  split
  · rw [List.length_dropLast, List.length_drop]
    omega
  · rw [List.length_drop]
    omega

theorem length_body_ofContent_le (content : Bytes) :
    (Message.ofContent content).body.length ≤ content.length := by
  rw [Message.ofContent]
  split
  · rename_i cut
    obtain ⟨rfl, -⟩ := Bytes.cut?_eq_some cut
    simp only [List.length_append, List.length_cons]
    omega
  · exact Nat.zero_le _

/-- No frame makes decoding trap. -/
theorem decode_eq [Directory δ] [MediaStore μ] (peer : Peer) (services : Services δ μ)
    (connection : ConnectionId) (receivedAt : Instant) {frame : Bytes}
    (held : frame.length < 2 ^ 63) :
    decode peer services connection receivedAt frame =
      .ok (peer.decode services connection receivedAt frame) := by
  rw [decode, Header.Checked.scan_eq held, ok_bind, Peer.decode, Header.scan?]
  cases Header.scan frame with
  | incomplete | invalid => rfl
  | complete header =>
    dsimp only
    generalize services.resolve .byConnection connection (some header.deviceId) = resolved
    obtain ⟨_ | _ | session, services⟩ := resolved
    · rfl
    · rfl
    · dsimp only
      have content : (Message.contentOf header frame).length < 2 ^ 63 :=
        Nat.lt_of_le_of_lt (length_contentOf_le header frame) held
      have body : (Message.ofFrame header frame).body.length < 2 ^ 63 :=
        Nat.lt_of_le_of_lt (length_body_ofContent_le _) content
      rw [contentOf_eq, ok_bind, ofContent_eq content, ok_bind, ← Message.ofFrame,
        interpret_eq _ _ _ _ body]
      rfl

end Watch.Checked
end TrackerGateway
