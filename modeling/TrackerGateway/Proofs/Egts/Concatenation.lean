import TrackerGateway.Proofs.Egts.Simulation

/-!
# Packets one by one, or all in one unit

A whole packet is taken off the front of a unit whatever comes after it (`Packet.readAll_append`),
and what a run has found so far plays no part in what it does next (`Run.takePackets_behind`). So
it does not matter whether packets come one by one or together (`decode_flatten`).
-/

namespace TrackerGateway.Egts

namespace Packet

/-- Whether octets are one packet: its header is long enough, and it ends where they do. -/
def Whole (octets : Bytes) : Prop :=
  leastHeader ≤ declaredHeader octets ∧ octets.length = declaredSize octets

instance (octets : Bytes) : Decidable (Whole octets) := inferInstanceAs (Decidable (_ ∧ _))

/-- The header that a buffer declares. -/
def Header.declared (buffer : Bytes) : Header where
  headerLength := declaredHeader buffer
  frameLength := Bytes.le ((buffer.drop 5).take 2)
  packetId := Bytes.le ((buffer.drop 7).take 2)
  packetType := (buffer.getD 9 0).toNat

/-- The packet that octets are. -/
def ofWhole (octets : Bytes) : Packet :=
  let header := Header.declared octets
  ⟨header.packetId, header.packetType, (octets.drop header.headerLength).take header.frameLength⟩

theorem Whole.leastHeader_le {octets : Bytes} (whole : Whole octets) :
    leastHeader ≤ octets.length := by
  rw [whole.2, declaredSize, size]
  have := whole.1
  omega

theorem Header.peek_of_le {buffer : Bytes} (h : leastHeader ≤ buffer.length) :
    Header.peek (.ofBytes buffer) = (Header.declared buffer).fitting (.ofBytes buffer) := by
  have there : 11 ≤ (Reader.ofBytes buffer).remaining := h
  rw [Header.peek, Reader.peek_of_lt (by omega), Reader.peekLe16_of_le (by omega),
    Reader.peekLe16_of_le (by omega), Reader.peek_of_lt (by omega)]
  rfl

theorem Header.declared_append {octets : Bytes} (rest : Bytes) (h : leastHeader ≤ octets.length) :
    Header.declared (octets ++ rest) = Header.declared octets := by
  have there : 11 ≤ octets.length := h
  simp only [Header.declared, declaredHeader, List.getD_eq_getElem?_getD]
  rw [Bytes.slice_append rest (by omega), Bytes.slice_append rest (by omega),
    List.getElem?_append_left (by omega), List.getElem?_append_left (by omega)]

/-- A whole packet is taken off, whatever comes after it. -/
theorem next_append {octets : Bytes} (rest : Bytes) (whole : Whole octets) :
    next (octets ++ rest) = .ok (ofWhole octets, rest) := by
  have least : leastHeader ≤ (octets ++ rest).length := by
    rw [List.length_append]
    exact Nat.le_trans whole.leastHeader_le (Nat.le_add_right ..)
  have ends : size (Header.declared octets).headerLength (Header.declared octets).frameLength =
      octets.length := whole.2.symm
  have framed : (Header.declared octets).headerLength + (Header.declared octets).frameLength ≤
      octets.length := by
    rw [← ends]
    exact Nat.le_add_right ..
  have fits : (Header.declared octets).fitting (.ofBytes (octets ++ rest)) =
      .ok (Header.declared octets) := by
    have complete : Bytes.hasAtLeast octets.length (octets ++ rest) = true :=
      Bytes.hasAtLeast_append rest ((Bytes.hasAtLeast_iff ..).2 (Nat.le_refl _))
    rw [Header.fitting, ends, Reader.ofBytes, complete, if_neg]
    simpa [Header.declared] using whole.1
  rw [next, Header.peek_of_le least, Header.declared_append rest whole.leastHeader_le, fits]
  simp only [Except.map]
  rw [ends, Bytes.slice_append rest framed, List.drop_left]
  rfl

theorem readAll_append {octets : Bytes} (rest : Bytes) (whole : Whole octets) :
    readAll (octets ++ rest) = (ofWhole octets :: (readAll rest).1, (readAll rest).2) := by
  have least : Bytes.hasAtLeast leastHeader (octets ++ rest) = true :=
    Bytes.hasAtLeast_append rest ((Bytes.hasAtLeast_iff ..).2 whole.leastHeader_le)
  rw [readAll, if_pos least]
  split
  · rename_i packet after read
    rw [next_append rest whole] at read
    cases read
    rfl
  · rename_i fault read
    rw [next_append rest whole] at read
    cases read

theorem readAll_of_lt {octets : Bytes} (few : octets.length < leastHeader) :
    readAll octets = ([], none) := by
  rw [readAll, if_neg]
  rw [Bytes.hasAtLeast_iff]
  exact Nat.not_le.2 few

theorem Whole.next_eq {octets : Bytes} (whole : Whole octets) :
    next octets = .ok (ofWhole octets, []) := by
  simpa using next_append [] whole

theorem Whole.readAll_eq {octets : Bytes} (whole : Whole octets) :
    readAll octets = ([ofWhole octets], none) := by
  have nothing : readAll [] = ([], none) := readAll_of_lt (by decide)
  simpa [nothing] using readAll_append [] whole

theorem readAll_flatten {packets : List Bytes} {trailing : Bytes}
    (whole : ∀ octets ∈ packets, Whole octets) (few : trailing.length < leastHeader) :
    readAll (packets.flatten ++ trailing) = (packets.map ofWhole, none) := by
  induction packets with
  | nil => exact readAll_of_lt few
  | cons octets packets ih =>
    rw [List.forall_mem_cons] at whole
    rw [List.flatten_cons, List.append_assoc, readAll_append _ whole.1, ih whole.2, List.map_cons]

end Packet

namespace Decoder

variable {δ μ : Type}

namespace Run

/-- The run with other positions found before. -/
def behind (before : List Position) (run : Run δ μ) : Run δ μ :=
  { run with positions := before ++ run.positions }

/-- What comes of a unit, once its packets were taken. -/
def finish : Option Error × Run δ μ → Except Error (List Position) × Decoder × Services δ μ
  | (some error, run) => (.error error, run.decoder, run.services)
  | (none, run) => (.ok run.positions, run.decoder, run.services)

theorem finish_behind (before : List Position) (outcome : Option Error × Run δ μ) :
    finish (Prod.map id (behind before) outcome) =
      ((finish outcome).1.map (before ++ ·), (finish outcome).2) := by
  match outcome with
  | (some _, _) => rfl
  | (none, _) => rfl

variable [Directory δ]

theorem simulation_behind (connection : ConnectionId) (before : List Position) :
    Simulation connection fun run run' : Run δ μ => run' = run.behind before where
  mode := by
    rintro run _ rfl
    rfl
  session := by
    rintro run _ rfl
    exact .refl _
  resolve := by
    rintro run _ rfl uniqueId
    exact ⟨.refl _, rfl⟩
  confirm := by
    rintro run _ rfl service
    rfl

/-- What was found before plays no part in what is done with packets. -/
theorem takePackets_behind (before : List Position) (run : Run δ μ) (connection : ConnectionId)
    (packets : List Packet) :
    (run.behind before).takePackets connection packets =
      Prod.map id (behind before) (run.takePackets connection packets) := by
  have emitted {run run' : Run δ μ} (position : Position) {session session' : Session}
      (device : session'.deviceId = session.deviceId) (same : run' = run.behind before) :
      run'.emit position session' = (run.emit position session).behind before := by
    rw [same]
    simp only [emit, behind, List.append_assoc, device]
  have acknowledged {run run' : Run δ μ} (packetId : Nat) (record : Record)
      (same : run' = run.behind before) :
      run'.acknowledge packetId record = (run.acknowledge packetId record).behind before := by
    rw [same]
    rfl
  obtain ⟨result, after⟩ :=
    matches_takePackets (simulation_behind connection before) rfl emitted acknowledged packets
  exact Prod.ext result after

end Run

variable [Directory δ] {decoder : Decoder} {services : Services δ μ} {connection : ConnectionId}

theorem decode_of_readAll {bytes : Bytes} {packets : List Packet}
    (h : Packet.readAll bytes = (packets, none)) :
    decoder.decode services connection bytes =
      Run.finish (Run.takePackets ⟨decoder, services, []⟩ connection packets) := by
  simp only [decode, h]
  match Run.takePackets ⟨decoder, services, []⟩ connection packets with
  | (some _, _) => rfl
  | (none, _) => rfl

/-- Decodes units of a connection one after the other, as long as none fails. -/
def decodeAll (decoder : Decoder) (services : Services δ μ) (connection : ConnectionId) :
    List Bytes → Except Error (List Position) × Decoder × Services δ μ
  | [] => (.ok [], decoder, services)
  | unit :: rest =>
    match decoder.decode services connection unit with
    | (.error error, decoder, services) => (.error error, decoder, services)
    | (.ok positions, decoder, services) =>
      let (others, decoder, services) := decoder.decodeAll services connection rest
      (others.map (positions ++ ·), decoder, services)

/-- Whole packets come to the same in one unit as one by one: to the same positions or the same
failure, the same decoder, and the same services with the same replies. Octets at the end that are
too few for a header make no difference. -/
theorem decode_flatten {packets : List Bytes} {trailing : Bytes}
    (whole : ∀ octets ∈ packets, Packet.Whole octets) (few : trailing.length < Packet.leastHeader) :
    decoder.decode services connection (packets.flatten ++ trailing) =
      decoder.decodeAll services connection packets := by
  induction packets generalizing decoder services with
  | nil => exact decode_of_readAll (Packet.readAll_of_lt few)
  | cons octets rest ih =>
    have read := Packet.readAll_flatten whole few
    rw [List.forall_mem_cons] at whole
    rw [decode_of_readAll read, decodeAll, decode_of_readAll whole.1.readAll_eq, List.map_cons,
      Run.takePackets, Run.takePackets]
    rcases Run.takePacket ⟨decoder, services, []⟩ connection (Packet.ofWhole octets) with
      ⟨_ | error, run⟩
    · have others : run.decoder.decode run.services connection (rest.flatten ++ trailing) =
          run.decoder.decodeAll run.services connection rest := ih whole.2
      rw [decode_of_readAll (Packet.readAll_flatten whole.2 few)] at others
      -- The run goes on with what it has found, the next unit would start with nothing.
      have continued := Run.takePackets_behind run.positions ⟨run.decoder, run.services, []⟩
        connection (rest.map Packet.ofWhole)
      rw [Run.behind, List.append_nil] at continued
      show Run.finish (run.takePackets connection (rest.map Packet.ofWhole)) =
        ((run.decoder.decodeAll run.services connection rest).1.map (run.positions ++ ·),
          (run.decoder.decodeAll run.services connection rest).2)
      rw [continued, Run.finish_behind, others]
    · rfl

/-- A record whose sub-record is cut short, an acknowledgment, and a packet without frame data whose
header has two octets more than the least. -/
def samplePackets : List Bytes :=
  [Packet.build 1 Packet.typeAppData (Record.build 5 Record.teledataService [16, 40, 0]),
    Packet.build 9 Packet.typeResponse [1, 0, 0], [1, 0, 0, 13, 0, 0, 0, 7, 0, 1, 0, 0, 0]]

theorem decode_samplePackets :
    let services : Services (String → Lookup) Unit := ⟨.empty, fun _ => .unknown, (), []⟩
    (start .byConnection).decode services ⟨1⟩ (samplePackets.flatten ++ [1, 0]) =
      (start .byConnection).decodeAll services ⟨1⟩ samplePackets :=
  decode_flatten (by decide +kernel) (by decide)

end Decoder
end TrackerGateway.Egts
