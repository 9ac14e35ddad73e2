import TrackerGateway.Proofs.Watch.Device
import TrackerGateway.Proofs.Watch.Writing

/-!
# Answers to watches

Five types of message are answered (`Message.reply?_eq`), each if the device of the frame is
known. An answer is written with what was read off the frame, so it names the watch in the very
octets of the frame where these are texts (`answer_of_frame`).
-/

namespace TrackerGateway

namespace Watch

namespace Message

/-- The types of message that are answered. -/
def answered : List String := ["INIT", "LK", "AL", "TKQ", "TKQ2"]

/-- The content of the answer to a message of a type. -/
def answerTo (type : String) : String := if type = "INIT" then "INIT,1" else type

theorem reply?_eq (m : Message) :
    m.reply? = if m.type ∈ answered then some (answerTo m.type) else none := by
  obtain ⟨type, body⟩ := m
  by_cases expected : type ∈ answered
  · rw [if_pos expected]
    simp only [answered, List.mem_cons, List.not_mem_nil, or_false] at expected
    rcases expected with rfl | rfl | rfl | rfl | rfl <;> rfl
  · rw [if_neg expected]
    simp only [answered, List.mem_cons, List.not_mem_nil, or_false, not_or] at expected
    obtain ⟨hello, keepAlive, alarm, check, check2⟩ := expected
    simp only [reply?, kind]
    generalize told : MessageKind.ofType type = kind
    unfold MessageKind.ofType at told
    split at told <;> subst told <;> first | rfl | contradiction

/-- No answer begins like a length, so one that has no index is not taken for one that has. -/
theorem startsWithLength_answerTo {type : String} (expected : type ∈ answered) :
    Header.startsWithLength (Utf8.encode (answerTo type)) = false ∧
      (Utf8.encode (answerTo type)).length ≤ 65535 := by
  simp only [answered, List.mem_cons, List.not_mem_nil, or_false] at expected
  rcases expected with rfl | rfl | rfl | rfl | rfl <;> decide +kernel

end Message

/-! ### Frames -/

/-- Where the fields of a header are texts, what is written with them is read with them again. -/
theorem Header.reads_written {header : Header} {frame : Bytes} {content : String}
    (scanned : Header.scan frame = .complete header)
    (texts : ∀ field ∈ header.fieldOctets frame, Utf8.Valid field)
    (small : (Utf8.encode content).length ≤ 65535)
    (told : Header.startsWithLength (Utf8.encode content) = false) :
    Reads (Utf8.encode (frameText header.manufacturer header.deviceId header.index content))
      header.manufacturer header.deviceId header.index (Utf8.encode content) := by
  obtain ⟨first, second, deviceId, index, found⟩ := Header.exists_readFrom scanned
  rw [found.fieldOctets_eq] at texts
  obtain ⟨manufacturer, identifier⟩ := found.encode_eq (texts _ (by simp)) (texts _ (by simp))
  apply reads_frameText manufacturer _ _ _ small fun _ => told
  · rw [identifier]
    exact found.named
  · rw [identifier]
    exact found.deviceEnds
  · intro text member
    rw [found.index_eq] at member
    obtain ⟨octets, here, rfl⟩ := Option.map_eq_some_iff.1 member
    have valid := texts octets (by simp [here])
    rw [valid.encode_decodeLossy]
    exact found.indexEnds octets here

namespace Peer

variable {δ μ : Type} {peer : Peer} {services : Services δ μ} {connection : ConnectionId}
  {receivedAt : Instant} {frame : Bytes} {header : Header}

theorem replies_answer (services : Services δ μ) (header : Header) (m : Message) :
    (answer services header m).replies = services.replies ++ (m.reply?.map fun content =>
      Utf8.encode (frameText header.manufacturer header.deviceId header.index content)).toList := by
  unfold answer
  cases m.reply? with
  | none => exact (List.append_nil _).symm
  | some content => rfl

variable [Directory δ] [MediaStore μ]

theorem replies_of_session (scanned : Header.scan frame = .complete header)
    (resolves : services.Resolves connection header.deviceId) :
    (peer.decode services connection receivedAt frame).2.2.replies =
      services.replies ++ ((Message.ofFrame header frame).reply?.map fun content =>
        Utf8.encode (frameText header.manufacturer header.deviceId header.index
            content)).toList := by
  obtain ⟨session, after, resolved⟩ := resolves.exists_eq
  have kept : after.replies = services.replies :=
    congrArg (fun outcome => outcome.2.replies) resolved.symm
  simp only [decode_of_session scanned resolved]
  rw [replies_interpret, replies_answer, kept]

theorem replies_of_no_session (scanned : Header.scan frame = .complete header)
    (missing : ¬ services.Resolves connection header.deviceId) :
    (peer.decode services connection receivedAt frame).2.2.replies = services.replies := by
  rw [decode_of_no_session scanned (not_exists.1 missing)]
  rfl

/-- A frame of a device with a session is answered with one frame if its type asks for it: that
has the fields of the frame, and a content and a length of its own. No other frame is answered. -/
theorem answer_of_frame (peer : Peer) (services : Services δ μ) (connection : ConnectionId)
    (receivedAt : Instant) {frame : Bytes} {header : Header}
    (scanned : Header.scan frame = .complete header)
    (texts : ∀ field ∈ header.fieldOctets frame, Utf8.Valid field) :
    let type := (Message.ofFrame header frame).type
    let asks := services.Resolves connection header.deviceId ∧ type ∈ Message.answered
    let replies := (peer.decode services connection receivedAt frame).2.2.replies
    (asks → ∃ reply, replies = services.replies ++ [reply] ∧
      Reads reply header.manufacturer header.deviceId header.index
        (Utf8.encode (Message.answerTo type))) ∧
      (¬ asks → replies = services.replies) := by
  intro type asks replies
  constructor
  · rintro ⟨resolves, expected⟩
    have queued : replies = _ := replies_of_session scanned resolves
    rw [Message.reply?_eq, if_pos expected] at queued
    obtain ⟨told, small⟩ := Message.startsWithLength_answerTo expected
    exact ⟨_, queued, header.reads_written scanned texts small told⟩
  · intro silent
    by_cases resolves : services.Resolves connection header.deviceId
    · have unexpected : type ∉ Message.answered := fun expected => silent ⟨resolves, expected⟩
      have queued : replies = _ := replies_of_session scanned resolves
      rw [Message.reply?_eq, if_neg unexpected] at queued
      rw [queued]
      exact List.append_nil _
    · exact replies_of_no_session scanned resolves

/-- A watch signs on with brackets in its identifier, an index of no octets and a length that is
wrong. -/
theorem answer_of_hello :
    let frame := "[3G*8[6]1**FFFF*INIT,x]".toUTF8.toList
    let header : Header := ⟨"3G", "8[6]1", some "", 65535, 16⟩
    Header.scan frame = .complete header ∧
      (∀ field ∈ header.fieldOctets frame, Utf8.Valid field) ∧
      ∃ reply, (unknown.decode sampleServices ⟨0⟩ ⟨0, 0⟩ frame).2.2.replies = [reply] ∧
        Reads reply "3G" "8[6]1" (some "") (Utf8.encode "INIT,1") := by
  intro frame header
  have scanned : Header.scan frame = .complete header := by decide +kernel
  have texts : ∀ field ∈ header.fieldOctets frame, Utf8.Valid field := by
    have ascii : ∀ field ∈ header.fieldOctets frame, ∀ octet ∈ field, octet < 0x80 := by
      decide +kernel
    exact fun field member => Utf8.valid_of_ascii (ascii field member)
  have hello : (Message.ofFrame header frame).type = "INIT" := by decide +kernel
  refine ⟨scanned, texts, ?_⟩
  have answers := (answer_of_frame unknown sampleServices ⟨0⟩ ⟨0, 0⟩ scanned texts).1
  rw [hello] at answers
  exact answers ⟨⟨_, rfl⟩, by decide⟩

end Peer
end Watch
end TrackerGateway
