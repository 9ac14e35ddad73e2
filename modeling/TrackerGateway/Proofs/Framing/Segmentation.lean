import TrackerGateway.Framing

/-!
# Streams that arrive in chunks

`feedAll` is what becomes of a stream: each chunk is appended to what the chunks before it left,
and the units that are there are cut off. A framing is `Steady` on streams for which no cut
depends on what has not yet arrived. On those, chunks that do not make it fail come to the same as
the stream in one piece (`feedAll_eq_drain`), so it does not matter where a stream is divided.
-/

namespace TrackerGateway.Framing

variable {framing : Framing} {good : Bytes → Prop} {buffer rest unit : Bytes}

/-- Units that were cut off earlier, before those of a result. -/
def Drained.after (units : List Bytes) (drained : Drained) : Drained :=
  { drained with units := units ++ drained.units }

/-- The units of a stream whose chunks come one after the other, until cutting fails. -/
def feedAll (framing : Framing) (buffer : Bytes) : List Bytes → Drained
  | [] => ⟨[], buffer, none⟩
  | chunk :: chunks =>
    let fed := framing.feed buffer chunk
    if fed.failure.isSome then fed else (framing.feedAll fed.rest chunks).after fed.units

/-- What a step makes of the front of a good stream is what it makes of the whole. -/
structure Steady (framing : Framing) (good : Bytes → Prop) : Prop where
  unit_append : ∀ {buffer more unit rest : Bytes}, good (buffer ++ more) →
    framing.step buffer = .unit unit rest →
      framing.step (buffer ++ more) = .unit unit (rest ++ more)
  wait_append : ∀ {buffer more rest : Bytes}, good (buffer ++ more) →
    framing.step buffer = .wait rest → framing.step (buffer ++ more) = framing.step (rest ++ more)
  wait_again : ∀ {buffer rest : Bytes},
    framing.step buffer = .wait rest → framing.step rest = .wait rest
  good_of_unit : ∀ {buffer unit rest : Bytes}, good buffer →
    framing.step buffer = .unit unit rest → good rest
  good_of_wait : ∀ {buffer more rest : Bytes}, good (buffer ++ more) →
    framing.step buffer = .wait rest → good (rest ++ more)

@[simp] theorem Drained.after_nil (drained : Drained) : drained.after [] = drained := rfl

@[simp] theorem Drained.after_after (first second : List Bytes) (drained : Drained) :
    (drained.after second).after first = drained.after (first ++ second) := by
  simp [Drained.after]

theorem drain_eq_after_of_unit (h : framing.step buffer = .unit unit rest) :
    framing.drain buffer = (framing.drain rest).after [unit] := drain_of_unit h

theorem drain_congr {other : Bytes} (h : framing.step buffer = framing.step other) :
    framing.drain buffer = framing.drain other := by
  cases step : framing.step other with
  | unit unit rest => rw [drain_of_unit (h.trans step), drain_of_unit step]
  | wait rest => rw [drain_of_wait (h.trans step), drain_of_wait step]
  | failed error rest => rw [drain_of_failed (h.trans step), drain_of_failed step]

theorem feedAll_cons_of_calm {chunk : Bytes} (chunks : List Bytes)
    (calm : (framing.drain (buffer ++ chunk)).failure = none) :
    framing.feedAll buffer (chunk :: chunks) =
      (framing.feedAll (framing.drain (buffer ++ chunk)).rest chunks).after
        (framing.drain (buffer ++ chunk)).units := by
  simp [feedAll, feed, calm]

theorem feedAll_cons_of_failed {chunk : Bytes} (chunks : List Bytes) {error : Error}
    (failed : (framing.drain (buffer ++ chunk)).failure = some error) :
    framing.feedAll buffer (chunk :: chunks) = framing.drain (buffer ++ chunk) := by
  simp [feedAll, feed, failed]

theorem failure_of_feedAll_cons {chunk : Bytes} {chunks : List Bytes}
    (calm : (framing.feedAll buffer (chunk :: chunks)).failure = none) :
    (framing.drain (buffer ++ chunk)).failure = none := by
  cases failed : (framing.drain (buffer ++ chunk)).failure with
  | none => rfl
  | some error =>
    rw [feedAll_cons_of_failed chunks failed, failed] at calm
    cases calm

theorem feedAll_singleton (buffer chunk : Bytes) :
    framing.feedAll buffer [chunk] = framing.drain (buffer ++ chunk) := by
  cases failed : (framing.drain (buffer ++ chunk)).failure with
  | none =>
    rw [feedAll_cons_of_calm [] failed]
    simp only [feedAll, Drained.after, List.append_nil, ← failed]
  | some error => exact feedAll_cons_of_failed [] failed

/-- A framing waits with what it left when it last waited. -/
theorem step_rest_of_drain (steady : Steady framing good)
    (calm : (framing.drain buffer).failure = none) :
    framing.step (framing.drain buffer).rest = .wait (framing.drain buffer).rest := by
  induction buffer using drain.induct framing with
  | case1 buffer unit rest h _ ih =>
    rw [drain_eq_after_of_unit h] at calm ⊢
    exact ih calm
  | case2 buffer rest h =>
    rw [drain_of_wait h]
    exact steady.wait_again h
  | case3 buffer error rest h =>
    rw [drain_of_failed h] at calm
    cases calm

/-- The units of the front of a good stream come first; cutting goes on with what they left. -/
theorem drain_append (steady : Steady framing good) (more : Bytes) (isGood : good (buffer ++ more))
    (calm : (framing.drain buffer).failure = none) :
    framing.drain (buffer ++ more) =
        (framing.drain ((framing.drain buffer).rest ++ more)).after (framing.drain buffer).units ∧
      good ((framing.drain buffer).rest ++ more) := by
  induction buffer using drain.induct framing with
  | case1 buffer unit rest h _ ih =>
    have whole := steady.unit_append isGood h
    rw [drain_eq_after_of_unit h] at calm ⊢
    obtain ⟨tail, tailGood⟩ := ih (steady.good_of_unit isGood whole) calm
    refine ⟨?_, tailGood⟩
    rw [drain_eq_after_of_unit whole, tail, Drained.after_after]
    rfl
  | case2 buffer rest h =>
    have same := steady.wait_append isGood h
    rw [drain_of_wait h]
    refine ⟨?_, steady.good_of_wait isGood h⟩
    rw [Drained.after_nil]
    exact drain_congr same
  | case3 buffer error rest h =>
    rw [drain_of_failed h] at calm
    cases calm

/-- Chunks that come to a good stream, and at none of which cutting fails, give what the stream
gives in one piece. -/
theorem feedAll_eq_drain (steady : Steady framing good) {chunks : List Bytes}
    (settled : framing.step buffer = .wait buffer) (isGood : good (buffer ++ chunks.flatten))
    (calm : (framing.feedAll buffer chunks).failure = none) :
    framing.feedAll buffer chunks = framing.drain (buffer ++ chunks.flatten) := by
  induction chunks generalizing buffer with
  | nil =>
    rw [List.flatten_nil, List.append_nil, drain_of_wait settled]
    rfl
  | cons chunk chunks ih =>
    rw [List.flatten_cons, ← List.append_assoc] at isGood ⊢
    have fedCalm := failure_of_feedAll_cons calm
    have fedSettled := step_rest_of_drain steady fedCalm
    obtain ⟨whole, restGood⟩ := drain_append steady chunks.flatten isGood fedCalm
    rw [feedAll_cons_of_calm chunks fedCalm] at calm ⊢
    rw [whole, ih fedSettled restGood calm]

/-! ### The units of a stream -/

/-- What each unit is that can be cut off a buffer, all units of a buffer are. -/
theorem forall_units_drain {holds : Bytes → Prop}
    (cut : ∀ {buffer unit rest}, framing.step buffer = .unit unit rest → holds unit)
    (buffer : Bytes) : ∀ unit ∈ (framing.drain buffer).units, holds unit := by
  induction buffer using drain.induct framing with
  | case1 buffer unit rest h _ ih =>
    rw [drain_eq_after_of_unit h]
    rintro other (_ | ⟨_, later⟩)
    · exact cut h
    · exact ih other later
  | case2 buffer rest h =>
    rw [drain_of_wait h]
    rintro other ⟨⟩
  | case3 buffer error rest h =>
    rw [drain_of_failed h]
    rintro other ⟨⟩

theorem forall_units_feedAll {holds : Bytes → Prop}
    (cut : ∀ {buffer unit rest}, framing.step buffer = .unit unit rest → holds unit)
    (buffer : Bytes) (chunks : List Bytes) :
    ∀ unit ∈ (framing.feedAll buffer chunks).units, holds unit := by
  induction chunks generalizing buffer with
  | nil => rintro unit ⟨⟩
  | cons chunk chunks ih =>
    have first := forall_units_drain cut (buffer ++ chunk)
    rw [feedAll]
    split
    · exact first
    · intro unit found
      rcases List.mem_append.1 found with here | later
      · exact first unit here
      · exact ih _ unit later

end TrackerGateway.Framing
