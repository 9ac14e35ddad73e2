import TrackerGateway.Proofs.Egts.Stream
import TrackerGateway.Proofs.Egts.Acknowledgment

/-!
# Packets cut off a stream

A stream is cut where a packet ends, so the decoder finds one packet in each unit and nothing
behind it (`Packet.whole_of_mem_feedAll`). So no such unit fails for want of a packet, and none
closes its connection (`misconfigured_of_decode`).
-/

namespace TrackerGateway.Egts

namespace Packet

/-- What is cut off a buffer declares the same lengths as the buffer. -/
theorem whole_of_step {buffer unit rest : Bytes} (h : step buffer = .unit unit rest) :
    Whole unit := by
  have made : Cut buffer (.unit unit rest) := h ▸ cut buffer
  cases made with
  | whole least wide complete =>
    have length : (buffer.take (declaredSize buffer)).length = declaredSize buffer := by
      rw [List.length_take, Nat.min_eq_left complete]
    have least' : leastHeader ≤ (buffer.take (declaredSize buffer)).length := by
      rw [length, declaredSize, size]
      omega
    -- The buffer is the unit with more octets after it, on which no declared length depends.
    have header := declaredHeader_append (buffer.drop (declaredSize buffer)) least'
    have ends := declaredSize_append (buffer.drop (declaredSize buffer)) least'
    rw [List.take_append_drop] at header ends
    exact ⟨header ▸ wide, length.trans ends⟩

theorem whole_of_mem_feedAll {buffer unit : Bytes} {chunks : List Bytes}
    (cut : unit ∈ (framing.feedAll buffer chunks).units) : Whole unit :=
  Framing.forall_units_feedAll whole_of_step buffer chunks unit cut

end Packet

namespace Decoder

variable {δ μ : Type}

theorem Run.eq_some_of_finish {outcome : Option Error × Run δ μ} {error : Error}
    (failed : (Run.finish outcome).1 = .error error) : outcome.1 = some error := by
  obtain ⟨cause, after⟩ := outcome
  cases cause with
  | none => cases failed
  | some cause =>
    cases failed
    rfl

variable [Directory δ]

/-- However a stream comes in, and whatever the decoder and its sessions have seen before: each
unit cut off it is read as one packet with nothing behind it. If the directory says no more of its
failures than that it failed, decoding the unit fails only where a terminal says who it is to a
decoder that goes by object ids, and then the connection stays open. -/
theorem misconfigured_of_decode {buffer unit : Bytes} {chunks : List Bytes}
    (cut : unit ∈ (Packet.framing.feedAll buffer chunks).units) (decoder : Decoder)
    (services : Services δ μ) (plain : Directory.Plain services.directory)
    (connection : ConnectionId) :
    (∃ packet, Packet.next unit = .ok (packet, []) ∧ Packet.readAll unit = ([packet], none)) ∧
      ∀ error, (decoder.decode services connection unit).1 = .error error →
        decoder.mode = .byIdentifier ∧ error.closesConnection = false ∧
          ∃ reason, error = .protocol (.misconfigured reason) := by
  have whole := Packet.whole_of_mem_feedAll cut
  refine ⟨⟨_, whole.next_eq, whole.readAll_eq⟩, fun error failed => ?_⟩
  rw [decode_of_readAll whole.readAll_eq] at failed
  have taken := Run.eq_some_of_finish failed
  have start : (Run.mk decoder services []).Plain decoder.mode := ⟨rfl, plain⟩
  obtain ⟨mode, reason, rfl⟩ := start.misconfigured_of_takePackets taken
  exact ⟨mode, rfl, reason, rfl⟩

/-- A packet in two pieces, in which a terminal says who it is, over a directory that fails for all
identifiers but one. -/
theorem misconfigured_of_sampleContradiction :
    let answers : String → Lookup := fun uniqueId =>
      if uniqueId = "3000" then .unknown else .failed (.directory "backend unavailable")
    let services : Services (String → Lookup) Unit := ⟨.empty, answers, (), []⟩
    let pieces := [sampleContradiction.take 20, sampleContradiction.drop 20]
    let outcome := (start .byIdentifier).decode services ⟨1⟩ sampleContradiction
    sampleContradiction ∈ (Packet.framing.feedAll [] pieces).units ∧ outcome.1.isOk = false ∧
      (∃ packet, Packet.next sampleContradiction = .ok (packet, []) ∧
        Packet.readAll sampleContradiction = ([packet], none)) ∧
      ∀ error, outcome.1 = .error error →
        (start .byIdentifier).mode = .byIdentifier ∧ error.closesConnection = false ∧
          ∃ reason, error = .protocol (.misconfigured reason) := by
  intro answers services pieces outcome
  have cut : sampleContradiction ∈ (Packet.framing.feedAll [] pieces).units := by decide +kernel
  have refused : outcome.1.isOk = false := by decide +kernel
  have plain : Directory.Plain answers := by
    refine Directory.plain_answers fun uniqueId error failed => ?_
    simp only [answers] at failed
    split at failed
    · cases failed
    · cases failed
      exact ⟨_, rfl⟩
  exact ⟨cut, refused, misconfigured_of_decode cut (start .byIdentifier) services plain ⟨1⟩⟩

end Decoder
end TrackerGateway.Egts
