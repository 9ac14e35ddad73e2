import TrackerGateway.Bytes.Crc
import TrackerGateway.Bytes.Reader
import TrackerGateway.Framing

/-!
# EGTS transport packets

A packet is a header, frame data, and, where there are frame data, their check. The header says
how long it and the frame data are; octets that it has beyond the least length are routing fields
and are passed over. All numbers are least significant octet first.

`build` writes a packet with the least header, `framing` cuts a stream into packets, and `readAll`
takes the packets of a unit apart.
-/

namespace TrackerGateway.Egts

/-- The name of the protocol. -/
def protocolName : String := "egts"

namespace Packet

/-- The length of a header without routing fields. -/
def leastHeader : Nat := 11

/-- A packet that acknowledges another. -/
def typeResponse : Nat := 0

/-- A packet with application data. -/
def typeAppData : Nat := 1

/-- The length of a packet whose header and frame data have these lengths. -/
def size (headerLength frameLength : Nat) : Nat :=
  headerLength + frameLength + if 0 < frameLength then 2 else 0

/-- The check of a header's octets before it. -/
def headerCheck (octets : Bytes) : UInt8 := UInt8.ofBitVec (Crc.egtsHeader.checksum octets)

/-- The check of frame data. -/
def frameCheck (frame : Bytes) : Nat := (Crc.ccittFalse.checksum frame).toNat

/-- Whether the last octet of a header is the check of those before it. -/
def headerMatches (header : Bytes) : Bool :=
  match header.getLast? with
  | some check => headerCheck header.dropLast == check
  | none => false

/-- The least header of a packet, without its check. -/
def headerFields (packetId packetType frameLength : Nat) : Bytes :=
  [1, 0, 0, 11, 0] ++ Bytes.ofLe 2 frameLength ++ Bytes.ofLe 2 packetId ++ Bytes.ofLe 1 packetType

/-- Writes a packet. -/
def build (packetId packetType : Nat) (frame : Bytes) : Bytes :=
  let header := headerFields packetId packetType frame.length
  header ++ headerCheck header ::
    if frame.isEmpty then [] else frame ++ Bytes.ofLe 2 (frameCheck frame)

/-! ### Reading -/

/-- The fields of a header that say what follows. -/
structure Header where
  headerLength : Nat
  frameLength : Nat
  packetId : Nat
  packetType : Nat
  deriving DecidableEq, Repr

/-- The header, if it is long enough and the lengths it declares fit in what is there. -/
def Header.fitting (header : Header) (r : Reader) : Except ProtocolFault Header :=
  let declared := size header.headerLength header.frameLength
  if header.headerLength < leastHeader || !Bytes.hasAtLeast declared r.rest then
    .error (.framingDesync declared r.remaining)
  else .ok header

/-- Looks at the header ahead. -/
def Header.peek (r : Reader) : Except ProtocolFault Header := do
  let headerLength ← r.peek 3
  let frameLength ← r.peekLe16 5
  let packetId ← r.peekLe16 7
  let packetType ← r.peek 9
  Header.fitting ⟨headerLength.toNat, frameLength, packetId, packetType.toNat⟩ r

theorem Header.leastHeader_le_of_fitting {header found : Header} {r : Reader}
    (h : header.fitting r = .ok found) : leastHeader ≤ found.headerLength := by
  simp only [Header.fitting] at h
  split at h
  · cases h
  · rename_i hfits
    cases h
    simp only [Bool.or_eq_true, decide_eq_true_eq, not_or] at hfits
    exact Nat.not_lt.1 hfits.1

theorem Header.leastHeader_le_of_peek {header : Header} {r : Reader}
    (h : Header.peek r = .ok header) : leastHeader ≤ header.headerLength := by
  unfold Header.peek at h
  simp only [bind, Except.bind] at h
  split at h
  · cases h
  · split at h
    · cases h
    · split at h
      · cases h
      · split at h
        · cases h
        · exact Header.leastHeader_le_of_fitting h

end Packet

/-- A packet of a unit. -/
structure Packet where
  id : Nat
  packetType : Nat
  frame : Bytes
  deriving DecidableEq, Repr

namespace Packet

/-- The packet ahead and the octets after it. -/
def next (bytes : Bytes) : Except ProtocolFault (Packet × Bytes) :=
  (Header.peek (.ofBytes bytes)).map fun h =>
    (⟨h.packetId, h.packetType, (bytes.drop h.headerLength).take h.frameLength⟩,
      bytes.drop (size h.headerLength h.frameLength))

theorem next_shorter {bytes rest : Bytes} {packet : Packet} (h : next bytes = .ok (packet, rest)) :
    rest.length < bytes.length := by
  unfold next at h
  cases hp : Header.peek (.ofBytes bytes) with
  | error fault => rw [hp] at h; cases h
  | ok header =>
    rw [hp] at h
    cases h
    have hne : bytes ≠ [] := by
      rintro rfl
      simp [Header.peek, Reader.peek, Reader.ofBytes, bind, Except.bind] at hp
    have hle := Header.leastHeader_le_of_peek hp
    have hpos : 0 < size header.headerLength header.frameLength := by
      unfold size
      unfold leastHeader at hle
      omega
    have hlen : 0 < bytes.length := List.length_pos_iff.2 hne
    simp only [List.length_drop]
    omega

/-- The packets of a unit, and the cause if reading stopped before the end. Octets too few for a
header at the end are passed over. -/
def readAll (bytes : Bytes) : List Packet × Option ProtocolFault :=
  if Bytes.hasAtLeast leastHeader bytes then
    match h : next bytes with
    | .ok (packet, rest) =>
      have := next_shorter h
      let (more, fault) := readAll rest
      (packet :: more, fault)
    | .error fault => ([], some fault)
  else ([], none)
termination_by bytes.length

/-! ### Streams -/

/-- The header length that a buffer declares. -/
def declaredHeader (buffer : Bytes) : Nat := (buffer.getD 3 0).toNat

/-- The length of the packet that a buffer declares. -/
def declaredSize (buffer : Bytes) : Nat :=
  size (declaredHeader buffer) (Bytes.le ((buffer.drop 5).take 2))

/-- Cuts off one packet once it is complete. -/
def step (buffer : Bytes) : Framing.Step :=
  if !Bytes.hasAtLeast leastHeader buffer then .wait buffer
  else if declaredHeader buffer < leastHeader then
    .failed (.protocol (.framingDesync (declaredHeader buffer) buffer.length)) buffer
  else if Bytes.hasAtLeast (declaredSize buffer) buffer then
    .unit (buffer.take (declaredSize buffer)) (buffer.drop (declaredSize buffer))
  else .wait buffer

theorem step_shorter {buffer unit rest : Bytes} (h : step buffer = .unit unit rest) :
    rest.length < buffer.length := by
  unfold step at h
  split at h
  · cases h
  · rename_i hleast
    split at h
    · cases h
    · rename_i hheader
      split at h
      · cases h
        simp only [Bool.not_eq_true, Bool.not_eq_false', Bytes.hasAtLeast_iff] at hleast
        have hsize : declaredHeader buffer ≤ declaredSize buffer := by
          unfold declaredSize size
          omega
        simp only [List.length_drop]
        unfold leastHeader at hleast hheader
        omega
      · cases h

/-- How a stream of packets is cut. -/
def framing : Framing := ⟨step, step_shorter⟩

end Packet
end TrackerGateway.Egts
