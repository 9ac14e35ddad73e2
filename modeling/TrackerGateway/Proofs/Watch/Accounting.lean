import TrackerGateway.Proofs.Watch.Datagram
import TrackerGateway.Proofs.Watch.Writing

/-!
# Where the octets of a buffer go

One look at a buffer drops the noise at its front. It hands over a frame that it cuts from the
octets behind the noise, or it keeps all of them (`accounted_of_step`). Each octet is dropped, cut
into a frame or left, so a buffer that is looked at until it gives no more frames comes apart into
the pieces that its frames were cut from, noise and what waits (`exists_pieces`).
-/

namespace TrackerGateway.Watch

/-! ### Noise -/

/-- Octets before a place that are given up one by one: at none of them is there a header, or one
in the making. -/
inductive Noise (place : Bytes) : Bytes → Prop where
  | nil : Noise place []
  | cons {octet : UInt8} {noise : Bytes}
    (invalid : Header.scan (octet :: (noise ++ place)) = .invalid)
    (later : Noise place noise) : Noise place (octet :: noise)

/-- What is left of a buffer behind its noise. -/
def Front.place : Front → Bytes
  | .open rest => rest
  | .header _ rest => rest

theorem exists_noise (buffer : Bytes) :
    ∃ noise, buffer = noise ++ (skipNoise buffer).place ∧ Noise (skipNoise buffer).place noise := by
  induction buffer with
  | nil => exact ⟨[], rfl, .nil⟩
  | cons octet rest ih =>
    cases found : Header.scan (octet :: rest) with
    | complete header =>
      rw [skipNoise_of_complete found]
      exact ⟨[], rfl, .nil⟩
    | incomplete =>
      rw [skipNoise_of_incomplete found]
      exact ⟨[], rfl, .nil⟩
    | invalid =>
      obtain ⟨noise, whole, dropped⟩ := ih
      rw [skipNoise_of_invalid found]
      rw [whole] at found
      exact ⟨octet :: noise, congrArg (octet :: ·) whole, .cons found dropped⟩

/-- Nothing is left behind the noise, or a bracket opens it. -/
def Opens (place : Bytes) : Prop := place = [] ∨ ∃ inner, place = opening :: inner

theorem opens_of_scan {place : Bytes} (h : Header.scan place ≠ .invalid) : Opens place := by
  cases place with
  | nil => exact .inl rfl
  | cons octet rest =>
    by_cases opens : octet = opening
    · exact .inr ⟨rest, by rw [opens]⟩
    · have noise : Header.read (octet :: rest) = .invalid := by simp [Header.read, opens]
      exact absurd (Header.scan_of_read_invalid noise) h

theorem opens_place (buffer : Bytes) : Opens (skipNoise buffer).place := by
  apply opens_of_scan
  cases front : skipNoise buffer with
  | «open» rest => simp [Front.place, (skipNoise_again buffer).2 front]
  | header header place => simp [Front.place, (skipNoise_again buffer).1 front]

/-! ### What frames are cut from -/

/-- Octets that begin and end with brackets. -/
def Bracketed (octets : Bytes) : Prop := ∃ inner, octets = opening :: (inner ++ [closing])

/-- A header with the octets that it was read from, at the front of others. -/
structure Heads (header : Header) (head rest : Bytes) : Prop where
  read : Header.read (head ++ rest) = .complete header
  start : header.contentStart = head.length

/-- Raw octets and the frame that is cut from them. Pairs are resolved in a content that is as
long as its header declares; where the length is wrong they are resolved everywhere, up to the
first bracket that closes. -/
inductive CutFrom : Bytes → Bytes → Prop where
  | declared {header : Header} {head body : Bytes} (headed : Heads header head (body ++ [closing]))
    (length : (unescape body).length = header.length) :
    CutFrom (head ++ (body ++ [closing])) (head ++ (unescape body ++ [closing]))
  | bracket {header : Header} {head body : Bytes} (headed : Heads header head (body ++ [closing]))
    (first : closing ∉ body) :
    CutFrom (head ++ (body ++ [closing])) (unescape (head ++ (body ++ [closing])))

/-- The bracket that closes a frame is not part of a pair. -/
theorem unescape_append_closing (front : Bytes) :
    unescape (front ++ [closing]) = unescape front ++ [closing] := by
  induction front with
  | nil => rfl
  | cons octet front ih =>
    rw [List.cons_append, unescape_cons, unescape_cons, ih]
    cases resolved : unescape front with
    | nil =>
      have unpaired : Escape.meaning? closing = none := rfl
      simp [Escape.push, unpaired]
    | cons code rest => exact Escape.push_append [closing] (List.cons_ne_nil _ _)

namespace Heads

variable {header : Header} {head rest : Bytes}

theorem length_head (headed : Heads header head rest) : 11 ≤ head.length := by
  obtain ⟨first, second, deviceId, index, found⟩ :=
    Header.exists_readFrom (Header.scan_eq_complete.2 headed.read)
  have named := List.length_pos_iff.2 found.named
  have start := found.start
  rw [headed.start] at start
  omega

theorem exists_head (headed : Heads header head rest) : ∃ inner, head = opening :: inner := by
  obtain ⟨first, second, deviceId, field, after, whole, -⟩ :=
    Header.exists_fields_of_read headed.read
  cases head with
  | nil =>
    have length := headed.length_head
    simp only [List.length_nil] at length
    omega
  | cons octet inner =>
    rw [List.cons_append, List.cons.injEq] at whole
    exact ⟨inner, by rw [whole.1]⟩

/-- A header is still read when all that comes after the bracket that closes its frame is taken
away. -/
theorem of_append {body : Bytes} (headed : Heads header head (body ++ closing :: rest)) :
    Heads header head (body ++ [closing]) := by
  have again := Header.read_cutOut headed.read body
  rw [cutOut_append headed.start] at again
  have known : Header.read (head ++ (body ++ [closing])) ≠ .incomplete := by
    rw [← List.append_assoc, again]
    simp
  have same := Header.read_append rest known
  rw [List.append_assoc, List.append_assoc, List.singleton_append, headed.read] at same
  exact ⟨same.symm, headed.start⟩

end Heads

namespace CutFrom

variable {raw frame : Bytes}

theorem bracketed_raw (cut : CutFrom raw frame) : Bracketed raw := by
  cases cut with
  | declared headed _ | bracket headed _ =>
    obtain ⟨inner, rfl⟩ := headed.exists_head
    exact ⟨inner ++ _, by rw [List.cons_append, List.append_assoc]⟩

theorem bracketed_frame (cut : CutFrom raw frame) : Bracketed frame := by
  cases cut with
  | declared headed _ =>
    obtain ⟨inner, rfl⟩ := headed.exists_head
    exact ⟨inner ++ _, by rw [List.cons_append, List.append_assoc]⟩
  | @bracket header head body headed _ =>
    have unmarked : opening ≠ Escape.mark := by decide
    obtain ⟨inner, rfl⟩ := headed.exists_head
    refine ⟨unescape (inner ++ body), ?_⟩
    rw [← List.append_assoc, unescape_append_closing, List.cons_append, unescape_cons,
      Escape.push_of_ne unmarked, List.cons_append]

theorem length_frame_le (cut : CutFrom raw frame) : frame.length ≤ raw.length := by
  cases cut with
  | @declared header head body _ _ =>
    have shorter := length_unescape_le body
    simp only [List.length_append]
    omega
  | bracket _ _ => exact length_unescape_le _

theorem length_raw (cut : CutFrom raw frame) : 12 ≤ raw.length := by
  cases cut with
  | declared headed _ | bracket headed _ =>
    have head := headed.length_head
    simp only [List.length_append, List.length_singleton]
    omega

end CutFrom

/-! ### One look -/

theorem cutFrom_of_cutAtBracket {limit : Nat} {header : Header} {head raw frame rest : Bytes}
    (headed : Heads header head raw) (cut : cutAtBracket limit head raw = .unit frame rest) :
    ∃ used, raw = used ++ rest ∧ CutFrom (head ++ used) frame := by
  unfold cutAtBracket at cut
  split at cut
  · rename_i body after found
    obtain ⟨rfl, first⟩ := Bytes.cut?_eq_some found
    cases cut
    refine ⟨body ++ [closing], by simp, ?_⟩
    rw [List.append_assoc]
    exact .bracket headed.of_append first
  · exact absurd cut pause_ne_unit

theorem cutFrom_of_cutFrame {limit : Nat} {header : Header} {head raw frame rest : Bytes}
    (headed : Heads header head raw)
    (cut : cutFrame limit header.length head raw = .unit frame rest) :
    ∃ used, raw = used ++ rest ∧ CutFrom (head ++ used) frame := by
  unfold cutFrame at cut
  split at cut
  · exact absurd cut pause_ne_unit
  · exact absurd cut pause_ne_unit
  · rename_i content octet after taken
    split at cut
    · rename_i closes
      subst closes
      cases cut
      obtain ⟨length, body, rfl, -⟩ := length_of_takeResolved taken
      -- What was taken off octet by octet is the body resolved as a whole.
      have resolved := unescape_of_takeResolved taken
      rw [unescape_append_cons closing_ne_mark, unescape_append_closing, unescape_cons,
        Escape.push_of_ne closing_ne_mark, List.append_assoc, List.singleton_append] at resolved
      have same : unescape body = content := List.append_cancel_right resolved
      rw [List.length_nil, Nat.zero_add, ← same] at length
      refine ⟨body ++ [closing], by simp, ?_⟩
      rw [← same, List.append_assoc]
      exact .declared headed.of_append length
    · exact cutFrom_of_cutAtBracket headed cut

theorem cutFrame_unit_or_pause (length : Nat) (head raw : Bytes) :
    (∃ frame rest, ∀ limit, cutFrame limit length head raw = .unit frame rest) ∨
      ∀ limit, cutFrame limit length head raw = pause limit (head ++ raw) := by
  unfold cutFrame
  split
  · exact .inr fun _ => rfl
  · exact .inr fun _ => rfl
  · split
    · exact .inl ⟨_, _, fun _ => rfl⟩
    · unfold cutAtBracket
      split
      · exact .inl ⟨_, _, fun _ => rfl⟩
      · exact .inr fun _ => rfl

/-- What is handed over comes from the octets behind the noise, whatever the limit is; where
nothing is, all of those wait or are too many. -/
theorem step_unit_or_pause (buffer : Bytes) :
    (∃ raw frame rest, (skipNoise buffer).place = raw ++ rest ∧ CutFrom raw frame ∧
        ∀ limit, step limit buffer = .unit frame rest) ∨
      ∀ limit, step limit buffer = pause limit (skipNoise buffer).place := by
  cases front : skipNoise buffer with
  | «open» rest => exact .inr fun limit => step_of_open front
  | header header place =>
    have read := Header.scan_eq_complete.1 ((skipNoise_again buffer).1 front)
    have inside := Header.contentStart_le_length read
    have whole := List.take_append_drop header.contentStart place
    have headed : Heads header (place.take header.contentStart)
        (place.drop header.contentStart) := by
      refine ⟨by rw [whole, read], ?_⟩
      rw [List.length_take, Nat.min_eq_left inside]
    have look (limit : Nat) : step limit buffer = _ := step_of_header front
    rcases cutFrame_unit_or_pause header.length (place.take header.contentStart)
      (place.drop header.contentStart) with ⟨frame, rest, cut⟩ | waits
    · obtain ⟨used, split, cutFrom⟩ := cutFrom_of_cutFrame headed (cut 0)
      refine .inl ⟨_, frame, rest, ?_, cutFrom, fun limit => (look limit).trans (cut limit)⟩
      rw [List.append_assoc, ← split, whole, Front.place]
    · rw [whole] at waits
      exact .inr fun limit => (look limit).trans (waits limit)

/-- What a look at a buffer may come to. -/
inductive Accounted (limit : Nat) (buffer : Bytes) : Framing.Step → Prop where
  /-- Behind noise there are the octets that a frame is cut from, and the rest is left as it is. -/
  | frame {noise raw frame rest : Bytes} (whole : buffer = noise ++ (raw ++ rest))
    (dropped : Noise (raw ++ rest) noise) (cut : CutFrom raw frame) (raw_bracketed : Bracketed raw)
    (frame_bracketed : Bracketed frame) (shorter : frame.length ≤ raw.length) :
    Accounted limit buffer (.unit frame rest)
  /-- All octets behind noise wait, and they are not past the limit. -/
  | wait {noise rest : Bytes} (whole : buffer = noise ++ rest) (dropped : Noise rest noise)
    (opens : Opens rest) (within : rest.length ≤ limit) : Accounted limit buffer (.wait rest)
  /-- The octets behind noise are past the limit. -/
  | failed {noise rest : Bytes} (whole : buffer = noise ++ rest) (dropped : Noise rest noise)
    (opens : Opens rest) (beyond : limit < rest.length) :
    Accounted limit buffer (.failed (.frameTooLarge rest.length limit) rest)

theorem accounted_pause {limit : Nat} {buffer noise place : Bytes} (whole : buffer = noise ++ place)
    (dropped : Noise place noise) (opens : Opens place) :
    Accounted limit buffer (pause limit place) := by
  unfold pause
  split
  · rename_i beyond
    exact .failed whole dropped opens beyond
  · rename_i within
    exact .wait whole dropped opens (Nat.le_of_not_lt within)

theorem accounted_step (limit : Nat) (buffer : Bytes) :
    Accounted limit buffer (step limit buffer) := by
  obtain ⟨noise, whole, dropped⟩ := exists_noise buffer
  rcases step_unit_or_pause buffer with ⟨raw, frame, rest, place, cut, unit⟩ | waits
  · rw [unit limit]
    rw [place] at whole dropped
    exact .frame whole dropped cut cut.bracketed_raw cut.bracketed_frame cut.length_frame_le
  · rw [waits limit]
    exact accounted_pause whole dropped (opens_place buffer)

theorem accounted_of_look {limit : Nat} {buffer : Bytes} {found : Framing.Step}
    (look : (framing limit).step buffer = found) : Accounted limit buffer found :=
  look ▸ accounted_step limit buffer

/-! ### Looking until no frame is left -/

/-- Octets that were used up for one frame. -/
structure Piece where
  /-- Those that were dropped before it. -/
  noise : Bytes
  /-- Those that it was cut from. -/
  raw : Bytes
  frame : Bytes
  cut : CutFrom raw frame

/-- All octets of a piece. -/
def Piece.octets (piece : Piece) : Bytes := piece.noise ++ piece.raw

theorem Piece.length_octets (piece : Piece) : 12 ≤ piece.octets.length := by
  have raw := piece.cut.length_raw
  rw [octets, List.length_append]
  omega

theorem length_flatMap_octets (pieces : List Piece) :
    12 * pieces.length ≤ (pieces.flatMap Piece.octets).length := by
  induction pieces with
  | nil => exact Nat.le_refl _
  | cons piece pieces ih =>
    have octets := piece.length_octets
    rw [List.flatMap_cons, List.length_append, List.length_cons]
    omega

/-- The pieces of a buffer, the noise behind them, and what is left come to the buffer. -/
theorem exists_pieces (limit : Nat) (buffer : Bytes) : ∃ (pieces : List Piece) (noise : Bytes),
    ((framing limit).drain buffer).units = pieces.map (·.frame) ∧
      buffer = pieces.flatMap Piece.octets ++ (noise ++ ((framing limit).drain buffer).rest) := by
  induction buffer using Framing.drain.induct (framing limit) with
  | case1 buffer unit rest look _ ih =>
    obtain ⟨pieces, noise, units, whole⟩ := ih
    cases accounted_of_look look with
    | @frame dropped raw _ _ split _ cut =>
      refine ⟨⟨dropped, raw, unit, cut⟩ :: pieces, noise, ?_, ?_⟩
      · rw [Framing.drain_of_unit look, units]
        rfl
      · rw [Framing.drain_of_unit look, split, List.flatMap_cons, Piece.octets, List.append_assoc,
          List.append_assoc, ← whole]
  | case2 buffer rest look =>
    cases accounted_of_look look with
    | @wait noise _ whole =>
      rw [Framing.drain_of_wait look]
      exact ⟨[], noise, rfl, whole⟩
  | case3 buffer error rest look =>
    cases accounted_of_look look with
    | @failed noise _ whole =>
      rw [Framing.drain_of_failed look]
      exact ⟨[], noise, rfl, whole⟩

/-- Looking ends in a failure exactly if more octets are left than may wait. -/
theorem failure_of_drain (limit : Nat) (buffer : Bytes) :
    ((framing limit).drain buffer).failure =
      if limit < ((framing limit).drain buffer).rest.length then
        some (.frameTooLarge ((framing limit).drain buffer).rest.length limit)
      else none := by
  induction buffer using Framing.drain.induct (framing limit) with
  | case1 buffer unit rest look _ ih =>
    rw [Framing.drain_of_unit look]
    exact ih
  | case2 buffer rest look =>
    cases accounted_of_look look with
    | wait _ _ _ within => rw [Framing.drain_of_wait look, if_neg (Nat.not_lt.2 within)]
  | case3 buffer error rest look =>
    cases accounted_of_look look with
    | failed _ _ _ beyond => rw [Framing.drain_of_failed look, if_pos beyond]

/-- A look at a buffer hands over a frame that is cut from the octets behind noise and leaves what
comes after them, or waits with all octets behind noise, or fails because they are past the limit.
Looking until no frame is left takes the buffer apart into the pieces of its frames, noise and
what waits. It ends, as each frame uses up twelve octets or more, and what waits then is within
the limit unless looking failed. -/
theorem accounted_of_step (limit : Nat) (buffer : Bytes) :
    Accounted limit buffer (step limit buffer) ∧
      (∃ (pieces : List Piece) (noise : Bytes),
        ((framing limit).drain buffer).units = pieces.map (·.frame) ∧
          buffer = pieces.flatMap Piece.octets ++ (noise ++ ((framing limit).drain buffer).rest)) ∧
      12 * ((framing limit).drain buffer).units.length +
        ((framing limit).drain buffer).rest.length ≤ buffer.length ∧
      ((framing limit).drain buffer).failure =
        if limit < ((framing limit).drain buffer).rest.length then
          some (.frameTooLarge ((framing limit).drain buffer).rest.length limit)
        else none := by
  have apart := exists_pieces limit buffer
  refine ⟨accounted_step limit buffer, apart, ?_, failure_of_drain limit buffer⟩
  obtain ⟨pieces, noise, units, whole⟩ := apart
  have many := length_flatMap_octets pieces
  have lengths := congrArg List.length whole
  simp only [List.length_append] at lengths
  rw [units, List.length_map]
  omega

end TrackerGateway.Watch
