import TrackerGateway.Proofs.Watch.Accounting

/-!
# Frames that are longer than what may wait

Frames are cut before the limit is looked at, so the limit is for what waits at the end of a
chunk, and not for frames. It does not change what is cut from a buffer (`drain_limit`): a stream
comes to what it would come to with room for all of it, up to the first chunk after which too much
waits (`feedAll_limit`). A frame is cut from octets that had waited, which are within the limit,
and octets of one more chunk, which may be as long as it likes (`exists_segments`).
-/

namespace TrackerGateway.Watch

/-! ### Segments -/

/-- Segments of a stream, one behind the other with other octets before, between and after them. -/
inductive Segments : Bytes → List Bytes → Prop where
  | nil (stream : Bytes) : Segments stream []
  | cons (between : Bytes) {segment rest : Bytes} {segments : List Bytes}
    (later : Segments rest segments) : Segments (between ++ (segment ++ rest)) (segment :: segments)

namespace Segments

variable {stream : Bytes} {segments : List Bytes}

theorem behind (front : Bytes) (h : Segments stream segments) :
    Segments (front ++ stream) segments := by
  cases h with
  | nil => exact .nil _
  | cons between later =>
    rw [← List.append_assoc]
    exact .cons _ later

theorem before (h : Segments stream segments) (more : Bytes) :
    Segments (stream ++ more) segments := by
  induction h with
  | nil => exact .nil _
  | cons between _ ih =>
    rw [List.append_assoc, List.append_assoc]
    exact .cons between ih

theorem of_pieces (pieces : List Piece) (h : Segments stream segments) :
    Segments (pieces.flatMap Piece.octets ++ stream) (pieces.map (·.raw) ++ segments) := by
  induction pieces with
  | nil => exact h
  | cons piece pieces ih =>
    rw [List.flatMap_cons, Piece.octets, List.append_assoc, List.append_assoc]
    exact .cons piece.noise ih

end Segments

/-- A segment of what had waited and a chunk has a part in each. -/
theorem exists_parts_of_infix {raw kept chunk : Bytes} (inside : raw <:+: kept ++ chunk) :
    ∃ waited fresh, raw = waited ++ fresh ∧ waited <:+: kept ∧ fresh <:+: chunk := by
  obtain ⟨before, after, whole⟩ := inside
  rcases List.append_eq_append_iff.1 whole with ⟨left, rfl, -⟩ | ⟨front, split, rfl⟩
  · exact ⟨raw, [], (List.append_nil raw).symm, ⟨before, left, rfl⟩, List.nil_infix⟩
  · rcases List.append_eq_append_iff.1 split with ⟨waited, rfl, rfl⟩ | ⟨between, rfl, rfl⟩
    · exact ⟨waited, front, rfl, (List.suffix_append _ _).isInfix, (List.prefix_append _ _).isInfix⟩
    · exact ⟨[], raw, rfl, List.nil_infix, ⟨between, after, rfl⟩⟩

theorem raw_infix_of_mem {pieces : List Piece} {piece : Piece} (member : piece ∈ pieces)
    (rest : Bytes) : piece.raw <:+: pieces.flatMap Piece.octets ++ rest := by
  obtain ⟨before, after, rfl⟩ := List.append_of_mem member
  refine ⟨before.flatMap Piece.octets ++ piece.noise, after.flatMap Piece.octets ++ rest, ?_⟩
  simp [Piece.octets]

/-- Raw octets of a frame, of which no more had waited than may wait when the others came in one
chunk. -/
def Arrived (limit : Nat) (chunks : List Bytes) (raw : Bytes) : Prop :=
  ∃ waited fresh, raw = waited ++ fresh ∧ waited.length ≤ limit ∧ ∃ chunk ∈ chunks, fresh <:+: chunk

theorem Arrived.of_segment {limit : Nat} {raw kept chunk : Bytes} {chunks : List Bytes}
    (within : kept.length ≤ limit) (inside : raw <:+: kept ++ chunk) (member : chunk ∈ chunks) :
    Arrived limit chunks raw := by
  obtain ⟨waited, fresh, split, had, came⟩ := exists_parts_of_infix inside
  exact ⟨waited, fresh, split, Nat.le_trans had.length_le within, chunk, member, came⟩

theorem Arrived.cons {limit : Nat} {raw : Bytes} {chunks : List Bytes}
    (h : Arrived limit chunks raw) (chunk : Bytes) : Arrived limit (chunk :: chunks) raw := by
  obtain ⟨waited, fresh, split, within, other, member, came⟩ := h
  exact ⟨waited, fresh, split, within, other, List.mem_cons_of_mem _ member, came⟩

theorem length_rest_of_calm {limit : Nat} {buffer : Bytes}
    (calm : ((framing limit).drain buffer).failure = none) :
    ((framing limit).drain buffer).rest.length ≤ limit := by
  rw [failure_of_drain] at calm
  split at calm
  · cases calm
  · rename_i within
    exact Nat.le_of_not_lt within

/-- The frames of a stream are cut from segments of it, in their order, and of no such segment had
more waited than may wait before its last octets came. -/
theorem exists_segments {limit : Nat} {kept : Bytes} (within : kept.length ≤ limit)
    (chunks : List Bytes) : ∃ pieces : List Piece,
      ((framing limit).feedAll kept chunks).units = pieces.map (·.frame) ∧
        Segments (kept ++ chunks.flatten) (pieces.map (·.raw)) ∧
        ∀ piece ∈ pieces, Arrived limit chunks piece.raw := by
  induction chunks generalizing kept with
  | nil => exact ⟨[], rfl, .nil _, fun _ member => absurd member List.not_mem_nil⟩
  | cons chunk chunks ih =>
    obtain ⟨pieces, noise, units, whole⟩ := exists_pieces limit (kept ++ chunk)
    have inside (piece : Piece) (member : piece ∈ pieces) :
        Arrived limit (chunk :: chunks) piece.raw := by
      have found := raw_infix_of_mem member (noise ++ ((framing limit).drain (kept ++ chunk)).rest)
      rw [← whole] at found
      exact .of_segment within found List.mem_cons_self
    rw [List.flatten_cons, ← List.append_assoc]
    cases failed : ((framing limit).drain (kept ++ chunk)).failure with
    | some error =>
      refine ⟨pieces, ?_, ?_, inside⟩
      · rw [Framing.feedAll_cons_of_failed chunks failed]
        exact units
      · have found :=
          Segments.of_pieces pieces (.nil (noise ++ ((framing limit).drain (kept ++ chunk)).rest))
        rw [← whole, List.append_nil] at found
        exact found.before _
    | none =>
      obtain ⟨later, laterUnits, laterFound, laterInside⟩ := ih (length_rest_of_calm failed)
      refine ⟨pieces ++ later, ?_, ?_, ?_⟩
      · rw [Framing.feedAll_cons_of_calm chunks failed, Framing.Drained.after, laterUnits, units,
          List.map_append]
      · have found := Segments.of_pieces pieces (laterFound.behind noise)
        rw [← List.append_assoc noise, ← List.append_assoc, ← whole] at found
        rwa [List.map_append]
      · intro piece member
        rcases List.mem_append.1 member with here | there
        · exact inside piece here
        · exact (laterInside piece there).cons chunk

/-! ### The limit is for what waits -/

theorem drain_of_pause {limit : Nat} {buffer place : Bytes}
    (look : step limit buffer = pause limit place) :
    ((framing limit).drain buffer).units = [] ∧ ((framing limit).drain buffer).rest = place := by
  unfold pause at look
  split at look
  · rw [Framing.drain_of_failed look]
    exact ⟨rfl, rfl⟩
  · rw [Framing.drain_of_wait look]
    exact ⟨rfl, rfl⟩

/-- A frame is cut whatever the limit is. -/
theorem step_eq_unit {limit : Nat} {buffer unit rest : Bytes}
    (look : step limit buffer = .unit unit rest) (other : Nat) :
    step other buffer = .unit unit rest := by
  rcases step_unit_or_pause buffer with ⟨raw, frame, left, -, -, always⟩ | always
  · rw [always other, ← always limit, look]
  · exact absurd ((always limit).symm.trans look) pause_ne_unit

theorem step_eq_pause {limit : Nat} {buffer : Bytes}
    (uncut : ∀ unit rest, step limit buffer ≠ .unit unit rest) (other : Nat) :
    step other buffer = pause other (skipNoise buffer).place := by
  rcases step_unit_or_pause buffer with ⟨raw, frame, left, -, -, always⟩ | always
  · exact absurd (always limit) (uncut frame left)
  · exact always other

/-- The limit does not change which frames are cut from a buffer and what is left of it. -/
theorem drain_limit (limit other : Nat) (buffer : Bytes) :
    ((framing limit).drain buffer).units = ((framing other).drain buffer).units ∧
      ((framing limit).drain buffer).rest = ((framing other).drain buffer).rest := by
  have paused {buffer : Bytes} (uncut : ∀ unit rest, step limit buffer ≠ .unit unit rest) :
      ((framing limit).drain buffer).units = ((framing other).drain buffer).units ∧
        ((framing limit).drain buffer).rest = ((framing other).drain buffer).rest := by
    obtain ⟨units, rest⟩ := drain_of_pause (step_eq_pause uncut limit)
    obtain ⟨otherUnits, otherRest⟩ := drain_of_pause (step_eq_pause uncut other)
    exact ⟨units.trans otherUnits.symm, rest.trans otherRest.symm⟩
  induction buffer using Framing.drain.induct (framing limit) with
  | case1 buffer unit rest look _ ih =>
    have again : (framing other).step buffer = .unit unit rest := step_eq_unit look other
    rw [Framing.drain_of_unit look, Framing.drain_of_unit again]
    exact ⟨congrArg (unit :: ·) ih.1, ih.2⟩
  | case2 buffer rest look =>
    apply paused
    intro unit left cut
    cases cut.symm.trans look
  | case3 buffer error rest look =>
    apply paused
    intro unit left cut
    cases cut.symm.trans look

/-- A stream that comes within a limit comes to the same with any other limit, up to the first chunk
after which more octets wait than that one allows. -/
theorem feedAll_limit {limit large : Nat} {kept : Bytes} {chunks : List Bytes}
    (within : kept.length ≤ limit) (calm : ((framing large).feedAll kept chunks).failure = none) :
    ((∀ n, ((framing large).feedAll kept (chunks.take n)).rest.length ≤ limit) ∧
        (framing limit).feedAll kept chunks = (framing large).feedAll kept chunks) ∨
      ∃ n, (∀ m < n, ((framing large).feedAll kept (chunks.take m)).rest.length ≤ limit) ∧
        limit < ((framing large).feedAll kept (chunks.take n)).rest.length ∧
        (framing limit).feedAll kept chunks =
          ⟨((framing large).feedAll kept (chunks.take n)).units,
            ((framing large).feedAll kept (chunks.take n)).rest,
            some (.frameTooLarge ((framing large).feedAll kept (chunks.take n)).rest.length
                limit)⟩ := by
  induction chunks generalizing kept with
  | nil =>
    refine .inl ⟨fun n => ?_, rfl⟩
    rw [List.take_nil]
    exact within
  | cons chunk chunks ih =>
    have fed := Framing.failure_of_feedAll_cons calm
    obtain ⟨units, rest⟩ := drain_limit limit large (kept ++ chunk)
    have failure := failure_of_drain limit (kept ++ chunk)
    -- What is left after one more chunk is what is left of the others after the first.
    have later (n : Nat) : (framing large).feedAll kept ((chunk :: chunks).take (n + 1)) =
        ((framing large).feedAll ((framing large).drain (kept ++ chunk)).rest (chunks.take n)).after
          ((framing large).drain (kept ++ chunk)).units := by
      rw [List.take_succ_cons, Framing.feedAll_cons_of_calm _ fed]
    by_cases beyond : limit < ((framing large).drain (kept ++ chunk)).rest.length
    · have first : (framing large).feedAll kept ((chunk :: chunks).take 1) =
          (framing large).drain (kept ++ chunk) := Framing.feedAll_singleton kept chunk
      refine .inr ⟨1, fun m before => ?_, ?_, ?_⟩
      · rw [Nat.lt_one_iff.1 before]
        exact within
      · rwa [first]
      · rw [rest, if_pos beyond] at failure
        rw [first, Framing.feedAll_cons_of_failed chunks failure, ← failure, ← units, ← rest]
    · rw [rest, if_neg beyond] at failure
      rw [Framing.feedAll_cons_of_calm chunks fed] at calm
      rw [Framing.feedAll_cons_of_calm chunks failure, Framing.feedAll_cons_of_calm chunks fed,
        units, rest]
      have onward := ih (Nat.le_of_not_lt beyond) calm
      rcases onward with ⟨enough, same⟩ | ⟨n, enough, tooMany, same⟩
      · refine .inl ⟨fun n => ?_, by rw [same]⟩
        cases n with
        | zero => exact within
        | succ n =>
          rw [later]
          exact enough n
      · refine .inr ⟨n + 1, fun m before => ?_, ?_, ?_⟩
        · cases m with
          | zero => exact within
          | succ m =>
            rw [later]
            exact enough m (Nat.lt_of_succ_lt_succ before)
        · rw [later]
          exact tooMany
        · rw [later, same]
          rfl

/-! ### Frames alone in a stream -/

namespace Frame

variable (f : Frame)

/-- As long as something is lacking, all octets of a frame wait. -/
theorem feedAll_part {kept more : Bytes} {chunks : List Bytes}
    (whole : f.wire = kept ++ chunks.flatten ++ more) (lacking : more ≠ []) :
    (framing defaultLimit).feedAll kept chunks = ⟨[], kept ++ chunks.flatten, none⟩ := by
  induction chunks generalizing kept with
  | nil =>
    rw [List.flatten_nil, List.append_nil]
    rfl
  | cons chunk chunks ih =>
    rw [List.flatten_cons, ← List.append_assoc] at whole ⊢
    have front : f.wire = kept ++ chunk ++ (chunks.flatten ++ more) := by
      rw [whole, List.append_assoc (kept ++ chunk)]
    have look : (framing defaultLimit).step (kept ++ chunk) = .wait (kept ++ chunk) :=
      f.step_of_part front (List.append_ne_nil_of_right_ne_nil _ lacking)
    have waits := Framing.drain_of_wait look
    rw [Framing.feedAll_cons_of_calm chunks (by rw [waits]), waits, ih whole]
    rfl

theorem feedAll_wire {chunks : List Bytes} (whole : chunks.flatten = f.wire) :
    (framing defaultLimit).feedAll [] chunks = ⟨[f.resolved], [], none⟩ := by
  have carried := f.carries_wire
  rw [← whole] at carried
  exact feedAll_of_frames carried

/-- What waits of a frame after its first chunks is all of them, or nothing once it is whole. -/
theorem feedAll_take_of_wire {chunks : List Bytes} (whole : chunks.flatten = f.wire) (n : Nat) :
    (framing defaultLimit).feedAll [] (chunks.take n) =
      if (chunks.take n).flatten = f.wire then ⟨[f.resolved], [], none⟩
      else ⟨[], (chunks.take n).flatten, none⟩ := by
  split
  · rename_i all
    exact f.feedAll_wire all
  · rename_i part
    have split : f.wire = [] ++ (chunks.take n).flatten ++ (chunks.drop n).flatten := by
      rw [List.nil_append, ← List.flatten_append, List.take_append_drop, whole]
    refine f.feedAll_part split fun nothing => part ?_
    rw [split, nothing, List.append_nil, List.nil_append]

/-- A frame comes through exactly if no chunk before its last one ends more than the limit behind
its beginning. -/
theorem resolved_mem_feedAll_iff (limit : Nat) {chunks : List Bytes}
    (whole : chunks.flatten = f.wire) :
    f.resolved ∈ ((framing limit).feedAll [] chunks).units ↔
      ∀ n, (chunks.take n).flatten ≠ f.wire → (chunks.take n).flatten.length ≤ limit := by
  have all := f.feedAll_wire whole
  have waits := f.feedAll_take_of_wire whole
  rcases feedAll_limit (Nat.zero_le limit) (congrArg (·.failure) all) with ⟨enough, same⟩ |
    ⟨n, -, tooMany, same⟩
  · rw [same, all]
    refine ⟨fun _ n part => ?_, fun _ => List.mem_singleton_self _⟩
    have room := enough n
    rwa [waits, if_neg part] at room
  · rw [waits] at tooMany same
    by_cases done : (chunks.take n).flatten = f.wire
    · rw [if_pos done] at tooMany
      exact absurd tooMany (Nat.not_lt_zero _)
    · rw [if_neg done] at tooMany same
      rw [same]
      refine ⟨fun member => absurd member List.not_mem_nil, fun enough => ?_⟩
      exact absurd (enough n done) (Nat.not_le_of_lt tooMany)

end Frame

/-! ### Streams -/

/-- What the first chunks of a stream come to where there is room for the whole stream. -/
def withRoom (chunks : List Bytes) (n : Nat) : Framing.Drained :=
  (framing chunks.flatten.length).feedAll [] (chunks.take n)

/-- A result after which too much waits. -/
def overflowing (limit : Nat) (drained : Framing.Drained) : Framing.Drained :=
  { drained with failure := some (.frameTooLarge drained.rest.length limit) }

/-- For every limit and every stream in chunks: of a frame no more octets had waited than may wait
when its last octets came, all in one chunk. The stream comes to what it would come to with room
for all of it, if never too much waits after a chunk, and else it fails after the first chunk
where that happens. So a frame by itself is handed over, however long, exactly if no chunk before
its last one ends more than the limit behind its beginning. -/
theorem cut_of_feedAll (limit : Nat) (chunks : List Bytes) :
    (∃ pieces : List Piece,
      ((framing limit).feedAll [] chunks).units = pieces.map (·.frame) ∧
        Segments chunks.flatten (pieces.map (·.raw)) ∧
        ∀ piece ∈ pieces, Arrived limit chunks piece.raw) ∧
      (((∀ n, (withRoom chunks n).rest.length ≤ limit) ∧
          (framing limit).feedAll [] chunks = withRoom chunks chunks.length) ∨
        ∃ n, (∀ m < n, (withRoom chunks m).rest.length ≤ limit) ∧
          limit < (withRoom chunks n).rest.length ∧
          (framing limit).feedAll [] chunks = overflowing limit (withRoom chunks n)) ∧
      ∀ f : Frame, chunks.flatten = f.wire →
        (f.resolved ∈ ((framing limit).feedAll [] chunks).units ↔
          ∀ n, (chunks.take n).flatten ≠ f.wire → (chunks.take n).flatten.length ≤ limit) := by
  have calm : ((framing chunks.flatten.length).feedAll [] chunks).failure = none :=
    failure_feedAll_of_length_le (by simp)
  refine ⟨exists_segments (Nat.zero_le limit) chunks, ?_, fun f => f.resolved_mem_feedAll_iff limit⟩
  rcases feedAll_limit (Nat.zero_le limit) calm with ⟨enough, same⟩ | overflow
  · refine .inl ⟨enough, ?_⟩
    rw [same, withRoom, List.take_length]
  · exact .inr overflow

/-- A frame of twenty octets comes through with a limit of sixteen if it is divided there. -/
theorem cut_of_sampleReport :
    let chunks := [sampleReport.wire.take 16, sampleReport.wire.drop 16]
    sampleReport.wire.length = 20 ∧ sampleReport.resolved ∈ ((framing 16).feedAll [] chunks).units ∧
      sampleReport.resolved ∉ ((framing 15).feedAll [] chunks).units := by
  intro chunks
  have whole : chunks.flatten = sampleReport.wire := by decide +kernel
  have first : (chunks.take 1).flatten ≠ sampleReport.wire := by decide +kernel
  refine ⟨by decide +kernel, ?_, fun through => ?_⟩
  · refine ((cut_of_feedAll 16 chunks).2.2 sampleReport whole).2 fun n part => ?_
    match n with
    | 0 => exact Nat.zero_le _
    | 1 => decide +kernel
    | n + 2 =>
      have all : chunks.take (n + 2) = chunks := List.take_of_length_le (Nat.le_add_left 2 n)
      exact absurd (by rw [all, whole]) part
  · have room := ((cut_of_feedAll 15 chunks).2.2 sampleReport whole).1 through 1 first
    exact absurd room (by decide +kernel)

/-- A frame that comes in one chunk may be as long as it likes. -/
theorem not_within_limit_of_feedAll :
    ¬ ∀ (limit : Nat) (chunks : List Bytes), ∀ frame ∈ ((framing limit).feedAll [] chunks).units,
      ∃ raw, CutFrom raw frame ∧ raw <:+: chunks.flatten ∧ raw.length ≤ limit := by
  intro claim
  have fed : (framing 4).feedAll [] ["[3G*1*0002*LK]".toUTF8.toList] =
      ⟨["[3G*1*0002*LK]".toUTF8.toList], [], none⟩ := by
    decide +kernel
  obtain ⟨raw, cut, -, within⟩ :=
    claim 4 ["[3G*1*0002*LK]".toUTF8.toList] "[3G*1*0002*LK]".toUTF8.toList
    (by rw [fed]; exact List.mem_singleton_self _)
  have long : "[3G*1*0002*LK]".toUTF8.toList.length = 14 := by decide +kernel
  have shorter := cut.length_frame_le
  omega

end TrackerGateway.Watch
