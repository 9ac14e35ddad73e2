import TrackerGateway.Proofs.Guarded.Decoding
import TrackerGateway.Proofs.Guarded.Messages
import TrackerGateway.Proofs.Guarded.Streams
import TrackerGateway.Protocol

/-!
# What a peer sends never traps

Whatever octets come from a device, in chunks of a stream or in a datagram, cutting and decoding
them reaches no index outside of what it indexes and no number outside of its type
(`Decoder.never_traps`). What decoding asks of the directory and of the media store is taken as
they answer it.
-/

namespace TrackerGateway

open Guarded

variable {δ μ : Type}

/-- The unit in a datagram. -/
def Protocol.Checked.datagramUnit : Protocol → Bytes → Guarded Bytes
  | .egts, datagram => pure datagram
  | .watch, datagram => Watch.Checked.unescape datagram

/-- Decodes a unit of a connection, which came at some time. -/
def Decoder.Checked.decode [Directory δ] [MediaStore μ] (decoder : Decoder)
    (services : Services δ μ) (connection : ConnectionId) (receivedAt : Instant) (unit : Bytes) :
    Guarded (Except Error (List Position) × Decoder × Services δ μ) :=
  match decoder with
  | .egts state => do
    let (result, state, services) ← Egts.Checked.decode state services connection unit
    pure (result, .egts state, services)
  | .watch peer => do
    let (result, peer, services) ← Watch.Checked.decode peer services connection receivedAt unit
    pure (result, .watch peer, services)

theorem Decoder.Checked.decode_eq [Directory δ] [MediaStore μ] (decoder : Decoder)
    (services : Services δ μ) (connection : ConnectionId) (receivedAt : Instant) {unit : Bytes}
    (held : unit.length < 2 ^ 63) :
    decode decoder services connection receivedAt unit =
      .ok (decoder.decode services connection receivedAt unit) := by
  cases decoder with
  | egts state =>
    rw [decode, Egts.Checked.decode_eq connection state services held]
    rfl
  | watch peer =>
    rw [decode, Watch.Checked.decode_eq peer services connection receivedAt held]
    rfl

theorem Protocol.Checked.datagramUnit_eq (protocol : Protocol) {datagram : Bytes}
    (held : datagram.length < 2 ^ 63) :
    datagramUnit protocol datagram = .ok (protocol.datagramUnit datagram) := by
  cases protocol with
  | egts => rfl
  | watch => exact Watch.Checked.unescape_eq held

/-- Streams in any chunks are cut, and units of any octets are decoded, without a trap: with all
indices, slices, groups and numbers checked, both come to what they come to without. -/
theorem Decoder.never_traps [Directory δ] [MediaStore μ] :
    (∀ (limit : Nat) (chunks : List Bytes),
      (∀ chunk ∈ chunks, min (limit + chunk.length) chunks.flatten.length < 2 ^ 63) →
      Framing.Checked.feedAll (Watch.Checked.step limit) [] chunks =
        .ok ((Watch.framing limit).feedAll [] chunks)) ∧
    (∀ chunks : List Bytes,
      (∀ chunk ∈ chunks, min (Egts.Packet.longest + chunk.length) chunks.flatten.length < 2 ^ 63) →
      Framing.Checked.feedAll Egts.Checked.step [] chunks =
        .ok (Egts.Packet.framing.feedAll [] chunks)) ∧
    (∀ (protocol : Protocol) (datagram : Bytes), datagram.length < 2 ^ 63 →
      Protocol.Checked.datagramUnit protocol datagram = .ok (protocol.datagramUnit datagram)) ∧
    (∀ (decoder : Decoder) (services : Services δ μ) (connection : ConnectionId)
      (receivedAt : Instant) (unit : Bytes), unit.length < 2 ^ 63 →
      Decoder.Checked.decode decoder services connection receivedAt unit =
        .ok (decoder.decode services connection receivedAt unit)) ∧
    ∀ (buffer : Bytes) (header : Watch.Header), Watch.Header.scan buffer = .complete header →
      header.contentStart ≤ buffer.length := by
  refine ⟨fun limit chunks short => ?_, fun chunks short => ?_, fun protocol datagram held => ?_,
    fun decoder services connection receivedAt unit held => ?_, fun buffer header scanned => ?_⟩
  · exact Framing.Checked.feedAll_eq (Watch.patient_framing limit) Watch.Checked.step_eq
      (Nat.zero_le _) (by simpa using short)
  · exact Framing.Checked.feedAll_eq Egts.Packet.patient_framing (fun _ => Egts.Checked.step_eq _)
      (Nat.zero_le _) (by simpa using short)
  · exact Protocol.Checked.datagramUnit_eq protocol held
  · exact Decoder.Checked.decode_eq decoder services connection receivedAt held
  · exact Watch.Header.contentStart_le_length (Watch.Header.scan_eq_complete.1 scanned)

/-- A frame between noise that is cut inside of its header and inside of a pair, and the first
octet of a frame that never comes. -/
def Watch.dividedStream : List Bytes :=
  [[0x41, 0x5B, 0x33, 0x47, 0x2A, 0x31, 0x2A, 0x30, 0x30, 0x30], [0x32, 0x2A, 0x4C, 0x7D],
    [0x02, 0x5D, 0x5B]]

/-- A packet that ends long before its header says. -/
def Egts.brokenStream : List Bytes := [[1, 0, 0, 11, 0, 255], [255, 0, 0, 1, 0], [7]]

/-- The streams, and a keep-alive whose watch is known. -/
theorem Decoder.never_traps_of_samples :
    let services : Services (String → Lookup) MediaLibrary :=
  ⟨.empty, fun _ => .known ⟨41⟩, .empty, []⟩
    let packet := Egts.brokenStream.flatten
    let frame := "[3G*1*0002*LK]".toUTF8.toList
    (∀ chunk ∈ Watch.dividedStream, min (64 + chunk.length) Watch.dividedStream.flatten.length <
      2 ^ 63) ∧
    Framing.Checked.feedAll (Watch.Checked.step 64) [] Watch.dividedStream =
      .ok ⟨[[0x5B, 0x33, 0x47, 0x2A, 0x31, 0x2A, 0x30, 0x30, 0x30, 0x32, 0x2A, 0x4C, 0x5B, 0x5D]],
        [0x5B], none⟩ ∧
    (∀ chunk ∈ Egts.brokenStream,
      min (Egts.Packet.longest + chunk.length) Egts.brokenStream.flatten.length < 2 ^ 63) ∧
    Framing.Checked.feedAll Egts.Checked.step [] Egts.brokenStream = .ok ⟨[], packet, none⟩ ∧
    packet.length < 2 ^ 63 ∧ Protocol.Checked.datagramUnit .egts packet = .ok packet ∧
    (Decoder.Checked.decode (.egts (.start .byConnection)) services ⟨1⟩ ⟨0, 0⟩ packet).map
      (·.1.isOk) = .ok false ∧
    frame.length < 2 ^ 63 ∧
    (Decoder.Checked.decode (.watch .unknown) services ⟨1⟩ ⟨0, 0⟩ frame).map (·.1.isOk) = .ok true ∧
    Watch.Header.scan frame = .complete ⟨"3G", "1", none, 2, 11⟩ ∧ 11 ≤ frame.length := by
  intro services packet frame
  obtain ⟨frames, packets, datagrams, units, starts⟩ :=
    @never_traps (String → Lookup) MediaLibrary _ _
  have divided : ∀ chunk ∈ Watch.dividedStream,
      min (64 + chunk.length) Watch.dividedStream.flatten.length < 2 ^ 63 := by
    decide
  have broken : ∀ chunk ∈ Egts.brokenStream,
      min (Egts.Packet.longest + chunk.length) Egts.brokenStream.flatten.length < 2 ^ 63 := by
    decide
  have packetHeld : packet.length < 2 ^ 63 := by decide
  have frameHeld : frame.length < 2 ^ 63 := by decide +kernel
  have scanned : Watch.Header.scan frame = .complete ⟨"3G", "1", none, 2, 11⟩ := by decide +kernel
  refine ⟨divided, (frames 64 _ divided).trans (congrArg _ ?_), broken,
    (packets _ broken).trans (congrArg _ ?_), packetHeld, datagrams .egts packet packetHeld, ?_,
    frameHeld, ?_, scanned, starts frame _ scanned⟩
  · decide +kernel
  · decide +kernel
  · rw [units _ services ⟨1⟩ ⟨0, 0⟩ packet packetHeld]
    decide +kernel
  · rw [units _ services ⟨1⟩ ⟨0, 0⟩ frame frameHeld]
    decide +kernel

end TrackerGateway
