import TrackerGateway.Proofs.Framing.Segmentation

/-!
# Streams that may fail while they are cut

Where a framing is steady and a failure does not mend when more octets come (`Failing`), whether a
stream fails, and after which units, has nothing to do with how it is divided either: chunks agree
with the stream in one piece (`feedAll_agrees`).
-/

namespace TrackerGateway.Framing

variable {framing : Framing} {good : Bytes → Prop} {buffer rest unit : Bytes}

/-- Results with the same units that both failed, or that left the same octets. -/
structure Drained.Agrees (first second : Drained) : Prop where
  units : first.units = second.units
  failed : first.failure.isSome = second.failure.isSome
  rest : first.failure = none → first.rest = second.rest

/-- Whether a buffer cannot be cut. -/
def Fails (framing : Framing) (buffer : Bytes) : Prop :=
  ∃ error rest, framing.step buffer = .failed error rest

/-- What cannot be cut at the front of a good stream cannot be cut in the whole. -/
def Failing (framing : Framing) (good : Bytes → Prop) : Prop :=
  ∀ {buffer more : Bytes}, good (buffer ++ more) → framing.Fails buffer →
    framing.Fails (buffer ++ more)

/-- A framing that hands over every octet or keeps it. -/
structure Lossless (framing : Framing) : Prop where
  of_unit : ∀ {buffer unit rest : Bytes}, framing.step buffer = .unit unit rest →
    unit ++ rest = buffer
  of_wait : ∀ {buffer rest : Bytes}, framing.step buffer = .wait rest → rest = buffer
  of_failed : ∀ {buffer rest : Bytes} {error : Error},
    framing.step buffer = .failed error rest → rest = buffer

namespace Drained

theorem Agrees.refl (drained : Drained) : drained.Agrees drained := ⟨rfl, rfl, fun _ => rfl⟩

theorem Agrees.symm {first second : Drained} (h : first.Agrees second) : second.Agrees first := by
  refine ⟨h.units.symm, h.failed.symm, fun calm => (h.rest ?_).symm⟩
  have failed := h.failed
  rw [calm] at failed
  simpa using failed

theorem Agrees.trans {first second third : Drained} (h : first.Agrees second)
    (h' : second.Agrees third) : first.Agrees third := by
  refine ⟨h.units.trans h'.units, h.failed.trans h'.failed, fun calm => ?_⟩
  rw [h.rest calm]
  apply h'.rest
  have failed := h.failed
  rw [calm] at failed
  simpa using failed.symm

theorem Agrees.after {first second : Drained} (h : first.Agrees second) (units : List Bytes) :
    (first.after units).Agrees (second.after units) :=
  ⟨congrArg (units ++ ·) h.units, h.failed, h.rest⟩

end Drained

theorem drain_of_fails (h : framing.Fails buffer) :
    (framing.drain buffer).units = [] ∧ (framing.drain buffer).failure.isSome = true := by
  obtain ⟨error, rest, h⟩ := h
  rw [drain_of_failed h]
  exact ⟨rfl, rfl⟩

/-- Once the front of a good stream has failed, what comes later plays no part. -/
theorem drain_append_of_failure (steady : Steady framing good) (failing : Failing framing good)
    (more : Bytes) (isGood : good (buffer ++ more))
    (failed : (framing.drain buffer).failure.isSome = true) :
    (framing.drain (buffer ++ more)).Agrees (framing.drain buffer) := by
  induction buffer using drain.induct framing with
  | case1 buffer unit rest h _ ih =>
    have whole := steady.unit_append isGood h
    rw [drain_eq_after_of_unit h] at failed ⊢
    rw [drain_eq_after_of_unit whole]
    exact (ih (steady.good_of_unit isGood whole) failed).after [unit]
  | case2 buffer rest h =>
    rw [drain_of_wait h] at failed
    cases failed
  | case3 buffer error rest h =>
    have front : framing.Fails buffer := ⟨error, rest, h⟩
    have before := drain_of_fails front
    have after := drain_of_fails (failing isGood front)
    refine ⟨after.1.trans before.1.symm, after.2.trans before.2.symm, fun calm => ?_⟩
    rw [calm] at after
    cases after.2

/-- Chunks of a good stream come to the same as the stream in one piece: to the same units, and to a
failure if that fails, or else to the same octets left. -/
theorem feedAll_agrees (steady : Steady framing good) (failing : Failing framing good)
    {chunks : List Bytes} (settled : framing.step buffer = .wait buffer)
    (isGood : good (buffer ++ chunks.flatten)) :
    (framing.feedAll buffer chunks).Agrees (framing.drain (buffer ++ chunks.flatten)) := by
  induction chunks generalizing buffer with
  | nil =>
    rw [List.flatten_nil, List.append_nil, drain_of_wait settled]
    exact .refl _
  | cons chunk chunks ih =>
    rw [List.flatten_cons, ← List.append_assoc] at isGood ⊢
    cases fed : (framing.drain (buffer ++ chunk)).failure with
    | none =>
      have fedSettled := step_rest_of_drain steady fed
      obtain ⟨whole, restGood⟩ := drain_append steady chunks.flatten isGood fed
      rw [feedAll_cons_of_calm chunks fed, whole]
      exact (ih fedSettled restGood).after _
    | some error =>
      have failed : (framing.drain (buffer ++ chunk)).failure.isSome = true := by rw [fed]; rfl
      rw [feedAll_cons_of_failed chunks fed]
      exact (drain_append_of_failure steady failing chunks.flatten isGood failed).symm

/-- The units of a buffer and what is left of it are the buffer. -/
theorem flatten_drain (lossless : Lossless framing) (buffer : Bytes) :
    (framing.drain buffer).units.flatten ++ (framing.drain buffer).rest = buffer := by
  induction buffer using drain.induct framing with
  | case1 buffer unit rest h _ ih =>
    have whole := lossless.of_unit h
    rw [drain_eq_after_of_unit h]
    show (unit :: (framing.drain rest).units).flatten ++ (framing.drain rest).rest = buffer
    rw [List.flatten_cons, List.append_assoc, ih, whole]
  | case2 buffer rest h =>
    rw [drain_of_wait h]
    exact lossless.of_wait h
  | case3 buffer error rest h =>
    rw [drain_of_failed h]
    exact lossless.of_failed h

end TrackerGateway.Framing
