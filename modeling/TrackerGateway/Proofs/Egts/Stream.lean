import TrackerGateway.Proofs.Egts.Concatenation
import TrackerGateway.Proofs.Framing.Failure

/-!
# Streams of packets that arrive in chunks

How long a packet is, and whether its header can be one at all, is told by its first `leastHeader`
octets, so nothing that comes later changes what is cut off or when a stream fails. No octet is
lost or made up. So a stream comes to the same however it is divided
(`feedAll_agrees_of_flatten_eq`).
-/

namespace TrackerGateway.Egts.Packet

/-- What cutting makes of a buffer. -/
inductive Cut (buffer : Bytes) : Framing.Step → Prop where
  /-- There is no whole header yet. -/
  | short (few : buffer.length < leastHeader) : Cut buffer (.wait buffer)
  /-- The header says that it is shorter than a header can be. -/
  | desync (least : leastHeader ≤ buffer.length) (narrow : declaredHeader buffer < leastHeader) :
    Cut buffer (.failed (.protocol (.framingDesync (declaredHeader buffer) buffer.length)) buffer)
  /-- There is no whole packet yet. -/
  | part (least : leastHeader ≤ buffer.length) (wide : leastHeader ≤ declaredHeader buffer)
    (lacks : buffer.length < declaredSize buffer) : Cut buffer (.wait buffer)
  | whole (least : leastHeader ≤ buffer.length) (wide : leastHeader ≤ declaredHeader buffer)
    (complete : declaredSize buffer ≤ buffer.length) :
    Cut buffer (.unit (buffer.take (declaredSize buffer)) (buffer.drop (declaredSize buffer)))

theorem cut (buffer : Bytes) : Cut buffer (step buffer) := by
  unfold step
  by_cases least : leastHeader ≤ buffer.length
  · have there : Bytes.hasAtLeast leastHeader buffer = true := (Bytes.hasAtLeast_iff ..).2 least
    by_cases narrow : declaredHeader buffer < leastHeader
    · simp only [there, narrow, Bool.not_true, Bool.false_eq_true, if_false, if_true]
      exact .desync least narrow
    · have wide := Nat.not_lt.1 narrow
      by_cases complete : declaredSize buffer ≤ buffer.length
      · have enough := (Bytes.hasAtLeast_iff ..).2 complete
        simp only [there, narrow, enough, Bool.not_true, Bool.false_eq_true, if_false, if_true]
        exact .whole least wide complete
      · have lacks := Nat.not_le.1 complete
        rw [← Bytes.hasAtLeast_iff] at complete
        simp only [there, narrow, complete, Bool.not_true, Bool.false_eq_true, if_false]
        exact .part least wide lacks
  · have few := Nat.not_le.1 least
    rw [← Bytes.hasAtLeast_iff, Bool.not_eq_true] at least
    simp only [least, Bool.not_false, if_true]
    exact .short few

/-- Which of the ways it is depends on the buffer alone. -/
theorem Cut.unique {buffer : Bytes} {first second : Framing.Step} (h : Cut buffer first)
    (h' : Cut buffer second) : first = second := by
  cases h <;> cases h' <;> first | rfl | omega

theorem Cut.step_eq {buffer : Bytes} {made : Framing.Step} (h : Cut buffer made) :
    step buffer = made := (cut buffer).unique h

theorem declaredHeader_append {buffer : Bytes} (more : Bytes)
    (least : leastHeader ≤ buffer.length) :
    declaredHeader (buffer ++ more) = declaredHeader buffer :=
  congrArg Header.headerLength (Header.declared_append more least)

theorem declaredSize_append {buffer : Bytes} (more : Bytes) (least : leastHeader ≤ buffer.length) :
    declaredSize (buffer ++ more) = declaredSize buffer :=
  congrArg (fun header : Header => size header.headerLength header.frameLength)
    (Header.declared_append more least)

theorem leastHeader_le_append {buffer : Bytes} (more : Bytes)
    (least : leastHeader ≤ buffer.length) : leastHeader ≤ (buffer ++ more).length := by
  rw [List.length_append]
  exact Nat.le_trans least (Nat.le_add_right ..)

theorem step_append_of_unit {buffer unit rest : Bytes} (more : Bytes)
    (h : step buffer = .unit unit rest) : step (buffer ++ more) = .unit unit (rest ++ more) := by
  have made := cut buffer
  rw [h] at made
  cases made with
  | whole least wide complete =>
    have same := declaredSize_append more least
    have wide' : leastHeader ≤ declaredHeader (buffer ++ more) := by
      rwa [declaredHeader_append more least]
    have complete' : declaredSize (buffer ++ more) ≤ (buffer ++ more).length := by
      rw [same, List.length_append]
      exact Nat.le_trans complete (Nat.le_add_right ..)
    rw [(Cut.whole (leastHeader_le_append more least) wide' complete').step_eq, same,
      List.take_append_of_le_length complete, List.drop_append_of_le_length complete]

theorem eq_of_step_wait {buffer rest : Bytes} (h : step buffer = .wait rest) : rest = buffer := by
  have made := cut buffer
  rw [h] at made
  cases made with
  | short few => rfl
  | part least wide lacks => rfl

/-- No cut of a stream of packets depends on what has not yet arrived. -/
theorem steady_framing : framing.Steady fun _ => True where
  unit_append := fun _ h => step_append_of_unit _ h
  wait_append := by
    intro buffer more rest _ h
    rw [eq_of_step_wait h]
  wait_again := by
    intro buffer rest h
    have same := eq_of_step_wait h
    rwa [same] at h ⊢
  good_of_unit := fun _ _ => trivial
  good_of_wait := fun _ _ => trivial

/-- Octets that are no packet do not become one. -/
theorem failing_framing : framing.Failing fun _ => True := by
  rintro buffer more - ⟨error, rest, h⟩
  have made : Cut buffer (.failed error rest) := h ▸ cut buffer
  cases made with
  | desync least narrow =>
    have narrow' : declaredHeader (buffer ++ more) < leastHeader := by
      rwa [declaredHeader_append more least]
    exact ⟨_, _, (Cut.desync (leastHeader_le_append more least) narrow').step_eq⟩

theorem lossless_framing : framing.Lossless where
  of_unit := by
    intro buffer unit rest h
    have made : Cut buffer (.unit unit rest) := h ▸ cut buffer
    cases made with
    | whole least wide complete => exact List.take_append_drop _ buffer
  of_wait := eq_of_step_wait
  of_failed := by
    intro buffer rest error h
    have made : Cut buffer (.failed error rest) := h ▸ cut buffer
    cases made with
    | desync least narrow => rfl

/-- Two ways to divide a stream come to the same packets, and both to a failure or both to none. If
there is none they leave the same octets, which together with the packets are the stream. -/
theorem feedAll_agrees_of_flatten_eq {chunks others : List Bytes}
    (same : chunks.flatten = others.flatten) :
    let fed := framing.feedAll [] chunks
    fed.Agrees (framing.feedAll [] others) ∧
      (fed.failure = none → fed.units.flatten ++ fed.rest = chunks.flatten) := by
  intro fed
  have few : ([] : Bytes).length < leastHeader := by decide
  have settled : framing.step [] = .wait [] := (Cut.short few).step_eq
  have first : fed.Agrees (framing.drain chunks.flatten) :=
    Framing.feedAll_agrees steady_framing failing_framing settled trivial
  have second : (framing.feedAll [] others).Agrees (framing.drain others.flatten) :=
    Framing.feedAll_agrees steady_framing failing_framing settled trivial
  constructor
  · rw [same] at first
    exact first.trans second.symm
  · intro calm
    rw [first.units, first.rest calm]
    exact Framing.flatten_drain lossless_framing chunks.flatten

/-- A packet with two routing fields and frame data, one without frame data, and the first octets
of a third; divided inside both headers and before the check of the frame data, or not at all. -/
theorem feedAll_agrees_of_divided_packets :
    let pieces : List Bytes :=
      [[1, 0, 0, 13, 0], [3, 0, 7, 0, 1, 0, 0], [], [0, 9, 8, 7], [1, 2, 1, 0, 0, 11, 0, 0],
        [0, 2, 0], [1, 77, 1, 0, 0]]
    let fed := framing.feedAll [] pieces
    fed.Agrees (framing.feedAll [] [pieces.flatten]) ∧
      (fed.failure = none → fed.units.flatten ++ fed.rest = pieces.flatten) :=
  feedAll_agrees_of_flatten_eq (by decide)

end TrackerGateway.Egts.Packet
