import TrackerGateway.Proofs.Framing.Segmentation

/-!
# Streams that carry units

A relation says which units a stream carries. A framing `Delivers` them if, at the front of such a
stream, a step hands over the first of the units or waits with nothing lost, and never fails. Then
all units arrive, in order and alone, however the stream is divided (`feedAll_of_carries`).
-/

namespace TrackerGateway.Framing

variable {framing : Framing} {carries : List Bytes → Bytes → Prop} {units : List Bytes}
  {buffer more : Bytes}

/-- What a step may make of the front of a stream that carries units, where `more` is to come. -/
inductive Onward (carries : List Bytes → Bytes → Prop) (more : Bytes) :
    List Bytes → Step → Prop where
  | wait {units : List Bytes} {rest : Bytes} (h : carries units (rest ++ more)) :
    Onward carries more units (.wait rest)
  | unit {unit rest : Bytes} {units : List Bytes} (h : carries units (rest ++ more)) :
    Onward carries more (unit :: units) (.unit unit rest)

/-- A framing that cuts off what a stream carries. -/
structure Delivers (framing : Framing) (carries : List Bytes → Bytes → Prop) : Prop where
  onward : ∀ {units : List Bytes} {buffer more : Bytes}, carries units (buffer ++ more) →
    Onward carries more units (framing.step buffer)
  finish : ∀ {units : List Bytes} {buffer rest : Bytes}, carries units buffer →
    framing.step buffer = .wait rest → units = [] ∧ rest = []

/-- Draining the front of a stream hands over the first units, and what is left carries the
others. At the end of the stream nothing is left. -/
theorem drain_of_carries (delivers : Delivers framing carries)
    (h : carries units (buffer ++ more)) :
    (framing.drain buffer).failure = none ∧
      ∃ others, units = (framing.drain buffer).units ++ others ∧
        carries others ((framing.drain buffer).rest ++ more) ∧
        (more = [] → others = [] ∧ (framing.drain buffer).rest = []) := by
  have next := delivers.onward h
  induction buffer using drain.induct framing generalizing units with
  | case1 buffer unit rest cut _ ih =>
    rw [cut] at next
    cases next with
    | unit carried =>
      obtain ⟨calm, others, split, left, ended⟩ := ih carried (delivers.onward carried)
      rw [drain_eq_after_of_unit cut]
      refine ⟨calm, others, ?_, left, ended⟩
      rw [split]
      rfl
  | case2 buffer rest cut =>
    rw [cut] at next
    cases next with
    | wait carried =>
      rw [drain_of_wait cut]
      refine ⟨rfl, units, rfl, carried, fun nothing => ?_⟩
      subst nothing
      rw [List.append_nil] at h
      exact delivers.finish h cut
  | case3 buffer error rest cut =>
    rw [cut] at next
    cases next

theorem feedAll_of_carries_onto (delivers : Delivers framing carries) {chunks : List Bytes}
    (h : carries units (buffer ++ chunks.flatten))
    (ended : chunks = [] → units = [] ∧ buffer = []) :
    framing.feedAll buffer chunks = ⟨units, [], none⟩ := by
  induction chunks generalizing buffer units with
  | nil =>
    obtain ⟨rfl, rfl⟩ := ended rfl
    rfl
  | cons chunk chunks ih =>
    rw [List.flatten_cons, ← List.append_assoc] at h
    obtain ⟨calm, others, split, left, last⟩ := drain_of_carries delivers h
    have others_eq := ih left fun nothing => last (by rw [nothing, List.flatten_nil])
    rw [feedAll_cons_of_calm chunks calm, others_eq, split]
    rfl

/-- However a stream is divided, what it carries is all that comes of it, and nothing is left. -/
theorem feedAll_of_carries (delivers : Delivers framing carries) {chunks : List Bytes}
    (h : carries units chunks.flatten) : framing.feedAll [] chunks = ⟨units, [], none⟩ := by
  refine feedAll_of_carries_onto delivers h fun nothing => ?_
  rw [nothing, List.flatten_nil] at h
  have whole : carries units ([] ++ []) := h
  have next := delivers.onward whole
  cases cut : framing.step [] with
  | unit unit rest => exact absurd (framing.shorter cut) (Nat.not_lt_zero _)
  | wait rest => exact ⟨(delivers.finish h cut).1, rfl⟩
  | failed error rest =>
    rw [cut] at next
    cases next

end TrackerGateway.Framing
