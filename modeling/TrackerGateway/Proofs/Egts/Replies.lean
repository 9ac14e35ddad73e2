import TrackerGateway.Proofs.Bytes.Numbers
import TrackerGateway.Proofs.Egts.Decoding
import TrackerGateway.Proofs.Egts.Stream

/-!
# Replies as packets

Whatever a decoder is given, and whether or not it can take it, what it sends are the packets of
answers, numbered on from where it stood (`exists_answers_decode`). Such a packet can be read: a
stream is cut after it, both of its checks are right, and an acknowledgment calls for nothing when
it comes back (`sound_reply`).
-/

namespace TrackerGateway.Egts

namespace Packet

/-! ### Packets that were written -/

theorem length_headerFields (packetId packetType frameLength : Nat) :
    (headerFields packetId packetType frameLength).length = 10 := by
  simp [headerFields]

/-- What is declared by a header that was written, in the octets that its fields have. -/
theorem declared_headerFields (packetId packetType frameLength : Nat) (rest : Bytes) :
    Header.declared (headerFields packetId packetType frameLength ++ rest) =
      ⟨leastHeader, frameLength % 65536, packetId % 65536, packetType % 256⟩ := by
  have type : (UInt8.ofNat packetType).toNat = packetType % 256 := UInt8.toNat_ofNat'
  show (⟨11, Bytes.le (Bytes.ofLe 2 frameLength), Bytes.le (Bytes.ofLe 2 packetId),
    (UInt8.ofNat packetType).toNat⟩ : Header) = _
  rw [Bytes.le_ofLe, Bytes.le_ofLe, type]
  rfl

/-- The header of a packet, with its check. -/
def headerOf (packetId packetType frameLength : Nat) : Bytes :=
  let fields := headerFields packetId packetType frameLength
  fields ++ [headerCheck fields]

theorem length_headerOf (packetId packetType frameLength : Nat) :
    (headerOf packetId packetType frameLength).length = leastHeader := by
  rw [headerOf, List.length_append, length_headerFields]
  rfl

theorem headerMatches_headerOf (packetId packetType frameLength : Nat) :
    headerMatches (headerOf packetId packetType frameLength) = true := by
  simp [headerMatches, headerOf]

variable {frame : Bytes}

/-- What follows the header of a packet: frame data and their check, or nothing. -/
def contents (frame : Bytes) : Bytes :=
  if frame = [] then [] else frame ++ Bytes.ofLe 2 (frameCheck frame)

theorem build_eq (packetId packetType : Nat) (frame : Bytes) :
    build packetId packetType frame = headerOf packetId packetType frame.length ++
        contents frame := by
  simp [build, headerOf, contents]

theorem length_contents (headerLength : Nat) (frame : Bytes) :
    headerLength + (contents frame).length = size headerLength frame.length := by
  rw [contents, size]
  split
  · rename_i empty
    simp [empty]
  · rename_i full
    rw [if_pos (List.length_pos_iff.2 full), List.length_append, Bytes.length_ofLe, Nat.add_assoc]

theorem take_contents (frame : Bytes) : (contents frame).take frame.length = frame := by
  rw [contents]
  split
  · rename_i empty
    simp [empty]
  · exact List.take_left

theorem declared_build (packetId packetType : Nat) (small : frame.length < 65536) :
    Header.declared (build packetId packetType frame) =
      ⟨leastHeader, frame.length, packetId % 65536, packetType % 256⟩ := by
  rw [build_eq, headerOf, List.append_assoc, declared_headerFields, Nat.mod_eq_of_lt small]

theorem whole_build (packetId packetType : Nat) (small : frame.length < 65536) :
    Whole (build packetId packetType frame) := by
  have declared := declared_build packetId packetType small
  have header : declaredHeader (build packetId packetType frame) = leastHeader :=
    congrArg Header.headerLength declared
  have declaredSize : declaredSize (build packetId packetType frame) =
      size leastHeader frame.length :=
    congrArg (fun header : Header => size header.headerLength header.frameLength) declared
  refine ⟨header.ge, ?_⟩
  rw [declaredSize, build_eq, List.length_append, length_headerOf, length_contents]

theorem take_build (packetId packetType : Nat) (frame : Bytes) :
    (build packetId packetType frame).take leastHeader =
        headerOf packetId packetType frame.length := by
  rw [build_eq, ← length_headerOf packetId packetType frame.length, List.take_left]

theorem drop_build (packetId packetType : Nat) (frame : Bytes) :
    (build packetId packetType frame).drop leastHeader = contents frame := by
  rw [build_eq, ← length_headerOf packetId packetType frame.length, List.drop_left]

theorem ofWhole_build (packetId packetType : Nat) (small : frame.length < 65536) :
    ofWhole (build packetId packetType frame) = ⟨packetId % 65536, packetType % 256, frame⟩ := by
  simp only [ofWhole, declared_build packetId packetType small, drop_build, take_contents]

/-! ### Packets that can be read -/

/-- Whether the last octet of a header is the cyclic check of those before it. -/
def HeaderChecked (header : Bytes) : Prop :=
  ∃ check : UInt8, header = header.dropLast ++ [check] ∧
    check.toBitVec = Crc.egtsHeader.checksum header.dropLast

/-- Whether octets are frame data and, in two octets behind them, their cyclic check, low octet
first. -/
def Checked (frame octets : Bytes) : Prop :=
  ∃ low high : UInt8, octets = frame ++ [low, high] ∧
    low.toNat + 256 * high.toNat = (Crc.ccittFalse.checksum frame).toNat

theorem headerChecked_headerOf (packetId packetType frameLength : Nat) :
    HeaderChecked (headerOf packetId packetType frameLength) := by
  refine ⟨headerCheck (headerFields packetId packetType frameLength), ?_, ?_⟩
  · rw [headerOf, List.dropLast_concat]
  · rw [headerOf, List.dropLast_concat]
    rfl

/-- The check of frame data fits in two octets. -/
theorem checked_contents (full : frame ≠ []) : Checked frame (contents frame) := by
  have small : frameCheck frame < 65536 := (Crc.ccittFalse.checksum frame).isLt
  have split : (UInt8.ofNat (frameCheck frame)).toNat + 256 *
      (UInt8.ofNat (frameCheck frame / 256)).toNat = frameCheck frame := by
    rw [UInt8.toNat_ofNat', UInt8.toNat_ofNat']
    omega
  refine ⟨UInt8.ofNat (frameCheck frame), UInt8.ofNat (frameCheck frame / 256), ?_, split⟩
  rw [contents, if_neg full]
  rfl

/-- Whether octets are a packet that can be told from what comes after it, with both checks
right. -/
structure Sound (octets : Bytes) (packet : Packet) : Prop where
  alone : ∀ more, framing.step (octets ++ more) = .unit octets more
  read : next octets = .ok (packet, [])
  headerMatches : headerMatches (octets.take leastHeader) = true
  headerChecked : HeaderChecked (octets.take leastHeader)
  checked : Checked packet.frame (octets.drop leastHeader)

theorem Whole.step_append {octets : Bytes} (whole : Whole octets) (more : Bytes) :
    framing.step (octets ++ more) = .unit octets more := by
  have least := whole.leastHeader_le
  have cut := (Cut.whole least whole.1 whole.2.ge).step_eq
  rw [← whole.2, List.take_length, List.drop_length] at cut
  exact step_append_of_unit more cut

theorem sound_build (packetId packetType : Nat) (full : frame ≠ []) (small : frame.length < 65536) :
    Sound (build packetId packetType frame) ⟨packetId % 65536, packetType % 256, frame⟩ := by
  have whole := whole_build packetId packetType small
  have read := whole.next_eq
  rw [ofWhole_build packetId packetType small] at read
  refine ⟨whole.step_append, read, ?_, ?_, ?_⟩
  · rw [take_build]
    exact headerMatches_headerOf _ _ _
  · rw [take_build]
    exact headerChecked_headerOf _ _ _
  · rw [drop_build]
    exact checked_contents full

end Packet

namespace Answer

theorem length_frame (answer : Answer) : 0 < answer.frame.length ∧ answer.frame.length < 65536 := by
  cases answer with
  | record packetId service number => simp [frame, Record.build, SubRecord.build]
  | identity service => simp [frame, Record.build, SubRecord.build]

/-- The answers of a run are numbered one after the other, in 16 bits. -/
theorem getElem?_packets {first : Nat} (small : first < 65536) {answers : List Answer} {k : Nat}
    {octets : Bytes} (here : (packets first answers)[k]? = some octets) :
    ∃ answer : Answer,
        octets = Packet.build ((first + k) % 65536) answer.packetType answer.frame := by
  induction answers generalizing first k with
  | nil => cases here
  | cons answer answers ih =>
    rw [packets] at here
    cases k with
    | zero =>
      rw [List.getElem?_cons_zero, Option.some.injEq] at here
      rw [Nat.add_zero, Nat.mod_eq_of_lt small]
      exact ⟨answer, here.symm⟩
    | succ k =>
      rw [List.getElem?_cons_succ] at here
      obtain ⟨other, written⟩ := ih (Nat.mod_lt _ (by omega)) here
      have number : ((first + 1) % 65536 + k) % 65536 = (first + (k + 1)) % 65536 := by omega
      rw [number] at written
      exact ⟨other, written⟩

end Answer

namespace Decoder

variable {δ μ : Type}

namespace Run

/-- Whether what a run has sent are the packets of answers, numbered from `first`. -/
def Answered (before : List Bytes) (first : Nat) (run : Run δ μ) : Prop :=
  ∃ answers, run.services.replies = before ++ Answer.packets first answers ∧
    run.decoder.packetId = Answer.nextId first answers

theorem Answered.send {before : List Bytes} {first : Nat} {run : Run δ μ}
    (answered : run.Answered before first) (answer : Answer) :
    (run.send answer.packetType answer.frame).Answered before first := by
  obtain ⟨answers, sent, next⟩ := answered
  refine ⟨answers ++ [answer], ?_, ?_⟩
  · rw [Answer.packets_append, ← List.append_assoc, ← sent, ← next]
    rfl
  · rw [Answer.nextId_append, ← next]
    rfl

theorem lasting_answered [Directory δ] (connection : ConnectionId) (before : List Bytes)
    (first : Nat) : Lasting connection (Answered (δ := δ) (μ := μ) before first) where
  resolve := fun _ _ answered => answered
  confirm := fun _ service answered => answered.send (.identity service)

theorem Answered.takePackets [Directory δ] {before : List Bytes} {first : Nat} {run : Run δ μ}
    (answered : run.Answered before first) (connection : ConnectionId) (packets : List Packet) :
    (run.takePackets connection packets).2.Answered before first := by
  refine keeps_takePackets (lasting_answered connection before first) answered ?_ ?_ packets
  · intro run position session answered
    exact answered
  · intro run packetId record answered
    exact answered.send (.record packetId record.service record.number)

end Run

variable [Directory δ]

/-- What a unit makes a decoder send, whether it can be taken or not. -/
theorem exists_answers_decode (decoder : Decoder) (services : Services δ μ)
    (connection : ConnectionId) (unit : Bytes) :
    ∃ answers, (decoder.decode services connection unit).2.2.replies =
        services.replies ++ Answer.packets decoder.packetId answers ∧
      (decoder.decode services connection unit).2.1.packetId =
        Answer.nextId decoder.packetId answers := by
  have start : (⟨decoder, services, []⟩ : Run δ μ).Answered services.replies decoder.packetId :=
    ⟨[], (List.append_nil _).symm, rfl⟩
  exact start.takePackets connection (Packet.readAll unit).1

/-- An acknowledgment changes nothing. -/
theorem decode_of_response {octets : Bytes} (whole : Packet.Whole octets)
    (response : (Packet.ofWhole octets).packetType = Packet.typeResponse) (decoder : Decoder)
    (services : Services δ μ) (connection : ConnectionId) :
    decoder.decode services connection octets = (.ok [], decoder, services) := by
  rw [decode_of_readAll whole.readAll_eq, Run.takePackets, Run.takePacket, if_pos response]
  rfl

/-! ### Runs -/

/-- A unit that a decoder is given, with the services at that time. -/
structure Call (δ μ : Type) where
  services : Services δ μ
  connection : ConnectionId
  unit : Bytes

/-- What a decoder queues when it is given one unit after the other. -/
def queued (decoder : Decoder) : List (Call δ μ) → List Bytes
  | [] => []
  | call :: calls =>
    let (_, next, services) := decoder.decode call.services call.connection call.unit
    services.replies.drop call.services.replies.length ++ next.queued calls

theorem exists_answers_queued (decoder : Decoder) (calls : List (Call δ μ)) :
    ∃ answers, decoder.queued calls = Answer.packets decoder.packetId answers := by
  induction calls generalizing decoder with
  | nil => exact ⟨[], rfl⟩
  | cons call calls ih =>
    obtain ⟨answers, sent, next⟩ :=
      decoder.exists_answers_decode call.services call.connection call.unit
    obtain ⟨others, later⟩ :=
      ih (decoder.decode call.services call.connection call.unit).2.1
    refine ⟨answers ++ others, ?_⟩
    rw [queued]
    simp only
    rw [sent, List.drop_left, later, next, Answer.packets_append]

/-- Over any run of a decoder, the replies are numbered from 0 in 16 bits, and each is a packet of
which both checks are right, whatever comes after it. One that acknowledges is not answered by any
decoder, and changes nothing there. -/
theorem sound_reply (mode : SessionMode) (calls : List (Call δ μ)) {k : Nat} {reply : Bytes}
    (here : ((start mode).queued calls)[k]? = some reply) :
    ∃ packet, Packet.Sound reply packet ∧ packet.id = k % 65536 ∧
      (packet.packetType = Packet.typeResponse →
        ∀ {δ' μ' : Type} [Directory δ'] (decoder : Decoder) (services : Services δ' μ')
          (connection : ConnectionId),
          decoder.decode services connection reply = (.ok [], decoder, services)) := by
  obtain ⟨answers, queued⟩ := exists_answers_queued (start mode) calls
  have first : (start mode).packetId = 0 := rfl
  rw [queued, first] at here
  obtain ⟨answer, rfl⟩ := Answer.getElem?_packets (by decide) here
  obtain ⟨some, small⟩ := answer.length_frame
  have full : answer.frame ≠ [] := List.length_pos_iff.1 some
  have whole := Packet.whole_build ((0 + k) % 65536) answer.packetType small
  have read := Packet.ofWhole_build ((0 + k) % 65536) answer.packetType small
  refine ⟨_, Packet.sound_build _ _ full small, ?_, ?_⟩
  · rw [Nat.zero_add]
    exact Nat.mod_mod _ _
  · intro response δ' μ' _ decoder services connection
    apply decode_of_response whole
    rw [read]
    exact response

/-- The acknowledgment of a report, with its checks, the second reply after a unit that could not be
taken. -/
theorem sound_reply_of_failure :
    let calls : List (Call (String → Lookup) Unit) :=
      [⟨sampleServices, ⟨1⟩, sampleAnnouncements⟩, ⟨sampleServices, ⟨1⟩, sampleReports⟩]
    let reply := Packet.build 1 Packet.typeResponse (Answer.record 1 2 1).frame
    ((start .byIdentifier).decode sampleServices ⟨1⟩ sampleAnnouncements).1.isOk = false ∧
      ((start .byIdentifier).queued calls)[1]? = some reply ∧
      reply[10]? = some 0x2E ∧ reply.drop 27 = [0xE2, 0x7B] ∧
      ∃ packet, Packet.Sound reply packet ∧ packet.id = 1 ∧
        (start .byConnection).decode sampleServices ⟨1⟩ reply =
          (.ok [], start .byConnection, sampleServices) := by
  intro calls reply
  have here : ((start .byIdentifier).queued calls)[1]? = some reply := by decide +kernel
  obtain ⟨packet, sound, number, silent⟩ := sound_reply .byIdentifier calls here
  have read : Packet.next reply = .ok (⟨1, 0, (Answer.record 1 2 1).frame⟩, []) := by decide +kernel
  have response : packet.packetType = Packet.typeResponse := by
    rw [sound.read] at read
    cases read
    rfl
  exact ⟨by decide +kernel, here, by decide +kernel, by decide +kernel, packet, sound, number,
    silent response _ _ _⟩

end Decoder

end TrackerGateway.Egts
