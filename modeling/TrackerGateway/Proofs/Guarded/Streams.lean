import TrackerGateway.Proofs.Framing.Segmentation
import TrackerGateway.Proofs.Guarded.Frames
import TrackerGateway.Proofs.Guarded.Packets

/-!
# Streams in chunks, cut with traps

A chunk is appended to what the chunks before it left. So what a cut looks at is bounded by the
stream, and also by the chunk and what a framing waits with (`Patient`): a watch's by the limit,
and that of packets by the longest packet that a header can declare. Where one of the two fits in
memory, cutting a stream comes to `Framing.feedAll`.
-/

namespace TrackerGateway

open Guarded

namespace Framing

/-- Whether no more octets than these, nor more than there were, are left to wait with. -/
def Patient (framing : Framing) (most : Nat) : Prop :=
  ∀ {buffer rest : Bytes}, framing.step buffer = .wait rest → rest.length ≤ min most buffer.length

namespace Checked

variable (step : Bytes → Guarded Framing.Step)

/-- All units of a buffer. -/
def drain (buffer : Bytes) : Guarded Drained :=
  loop (fun s => s.2.length)
    (fun (units, buffer) => do
      match ← step buffer with
      | .unit unit rest => pure (.inl (units ++ [unit], rest))
      | .wait rest => pure (.inr ⟨units, rest, none⟩)
      | .failed error rest => pure (.inr ⟨units, rest, some error⟩))
    (([] : List Bytes), buffer)

/-- What becomes of a stream whose chunks come one after the other. -/
def feedAll (buffer : Bytes) : List Bytes → Guarded Drained
  | [] => pure ⟨[], buffer, none⟩
  | chunk :: chunks => do
    let fed ← drain step (buffer ++ chunk)
    if fed.failure.isSome then pure fed
    else
      let more ← feedAll fed.rest chunks
      pure (more.after fed.units)

variable {step} {framing : Framing}

theorem drain_eq
    (steps : ∀ {buffer : Bytes}, buffer.length < 2 ^ 63 → step buffer = .ok (framing.step buffer))
    {buffer : Bytes} (held : buffer.length < 2 ^ 63) :
    drain step buffer = .ok (framing.drain buffer) := by
  refine loop_eq (fun s : List Bytes × Bytes => s.2.length < 2 ^ 63)
    (fun s => (framing.drain s.2).after s.1) (fun (units, buffer) held => ?_) held
  dsimp only at held ⊢
  rw [steps held, ok_bind]
  cases cut : framing.step buffer with
  | unit unit rest =>
    have shorter := framing.shorter cut
    refine .inr ⟨(units ++ [unit], rest), rfl, Nat.lt_trans shorter held, shorter, ?_⟩
    rw [drain_eq_after_of_unit cut, Drained.after_after]
  | wait rest =>
    rw [drain_of_wait cut, Drained.after, List.append_nil]
    exact .inl rfl
  | failed error rest =>
    rw [drain_of_failed cut, Drained.after, List.append_nil]
    exact .inl rfl

/-- What is left of a buffer is what there was to wait with. -/
theorem length_rest_drain_le {most : Nat} (patient : framing.Patient most) {buffer : Bytes}
    (calm : (framing.drain buffer).failure = none) :
    (framing.drain buffer).rest.length ≤ min most buffer.length := by
  induction buffer using drain.induct framing with
  | case1 buffer unit rest cut _ ih =>
    rw [drain_of_unit cut] at calm ⊢
    have shorter := framing.shorter cut
    have left := ih calm
    dsimp only at left ⊢
    omega
  | case2 buffer rest cut =>
    rw [drain_of_wait cut]
    exact patient cut
  | case3 buffer error rest cut =>
    rw [drain_of_failed cut] at calm
    cases calm

theorem feedAll_eq {most : Nat} (patient : framing.Patient most)
    (steps : ∀ {buffer : Bytes}, buffer.length < 2 ^ 63 → step buffer = .ok (framing.step buffer))
    {chunks : List Bytes} {buffer : Bytes} (left : buffer.length ≤ most)
    (short : ∀ chunk ∈ chunks,
      min (most + chunk.length) (buffer.length + chunks.flatten.length) < 2 ^ 63) :
    feedAll step buffer chunks = .ok (framing.feedAll buffer chunks) := by
  induction chunks generalizing buffer with
  | nil => rfl
  | cons chunk chunks ih =>
    simp only [List.forall_mem_cons, List.flatten_cons, List.length_append] at short
    have held : (buffer ++ chunk).length < 2 ^ 63 := by
      rw [List.length_append]
      omega
    rw [feedAll, Framing.feedAll, drain_eq steps held, ok_bind, feed]
    cases failed : (framing.drain (buffer ++ chunk)).failure with
    | some error => rfl
    | none =>
      have waiting := length_rest_drain_le patient failed
      rw [List.length_append] at waiting
      simp only [Option.isSome_none, Bool.false_eq_true, if_false]
      rw [ih (by omega) fun next later => by
        have fits := short.2 next later
        omega, ok_bind]
      rfl

end Checked
end Framing

/-! ### Packets -/

namespace Egts.Packet

/-- The length of the longest packet that a header can declare. -/
def longest : Nat := size 255 65535

theorem declaredSize_le (buffer : Bytes) : declaredSize buffer ≤ longest := by
  have header : declaredHeader buffer < 256 := UInt8.toNat_lt _
  have frame : Bytes.le ((buffer.drop 5).take 2) < 256 ^ 2 :=
    Nat.lt_of_lt_of_le (Bytes.le_lt _) (Nat.pow_le_pow_right (by decide) (List.length_take_le ..))
  have whole : longest = 255 + 65535 + 2 := rfl
  rw [declaredSize, whole, size]
  split <;> omega

theorem patient_framing : framing.Patient longest := by
  intro buffer rest waits
  change step buffer = .wait rest at waits
  rw [step] at waits
  split at waits
  · rename_i few
    cases waits
    rw [Bool.not_eq_true', Bool.eq_false_iff, ne_eq, Bytes.hasAtLeast_iff, Nat.not_le] at few
    exact Nat.le_min.2 ⟨Nat.le_trans (Nat.le_of_lt few) (by decide), Nat.le_refl _⟩
  · split at waits
    · cases waits
    · split at waits
      · cases waits
      · rename_i missing
        cases waits
        rw [Bytes.hasAtLeast_iff, Nat.not_le] at missing
        exact Nat.le_min.2 ⟨Nat.le_trans (Nat.le_of_lt missing) (declaredSize_le buffer),
          Nat.le_refl _⟩

end Egts.Packet

/-! ### Frames of watches -/

namespace Watch

theorem length_le_of_pause {limit : Nat} {buffer rest : Bytes}
    (waits : pause limit buffer = .wait rest) : rest.length ≤ limit := by
  rw [pause] at waits
  split at waits
  · cases waits
  · rename_i within
    cases waits
    exact Nat.not_lt.1 within

theorem length_le_of_cutAtBracket {limit : Nat} {head raw rest : Bytes}
    (waits : cutAtBracket limit head raw = .wait rest) : rest.length ≤ limit := by
  rw [cutAtBracket] at waits
  split at waits
  · cases waits
  · exact length_le_of_pause waits

theorem length_le_of_cutFrame {limit length : Nat} {head raw rest : Bytes}
    (waits : cutFrame limit length head raw = .wait rest) : rest.length ≤ limit := by
  unfold cutFrame at waits
  split at waits
  · exact length_le_of_pause waits
  · exact length_le_of_pause waits
  · split at waits
    · cases waits
    · exact length_le_of_cutAtBracket waits

theorem length_le_of_wait {limit : Nat} {buffer rest : Bytes}
    (waits : step limit buffer = .wait rest) : rest.length ≤ buffer.length := by
  rcases skipNoise_of_wait waits with front | ⟨header, front⟩
  · exact length_le_of_skipNoise_open front
  · exact length_le_of_skipNoise_header front

theorem patient_framing (limit : Nat) : (framing limit).Patient limit := by
  intro buffer rest waits
  change step limit buffer = .wait rest at waits
  refine Nat.le_min.2 ⟨?_, length_le_of_wait waits⟩
  rw [step] at waits
  split at waits
  · exact length_le_of_pause waits
  · exact length_le_of_cutFrame waits

end Watch
end TrackerGateway
