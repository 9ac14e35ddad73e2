import TrackerGateway.Proofs.Guarded.Header
import TrackerGateway.Proofs.Watch.Commands

/-!
# Cutting watch frames by places in the buffer

The buffer is moved on past the noise, the content is taken octet by octet at a place that moves
on, and the frame is cut off where it closes. None of this leaves the buffer, the frame that grows
is never shorter than its header, and what is cut off is what taking the octets one after the
other yields (`Checked.step_eq`).
-/

namespace TrackerGateway.Watch.Checked

open Guarded

/-! ### Pairs -/

/-- Puts one more octet out, from a place on. -/
def unescapeTurn (octets : Bytes) (s : Bytes × Nat) : Guarded (Bytes × Nat ⊕ Bytes) :=
  if s.2 < octets.length then do
    let octet ← entry octets s.2
    let next ← word (s.2 + 1)
    match if octet = Escape.mark then octets[next]?.bind Escape.meaning? else none with
    | some meant => pure (.inl (s.1 ++ [meant], ← word (s.2 + 2)))
    | none => pure (.inl (s.1 ++ [octet], next))
  else pure (.inr s.1)

/-- The octets with every pair resolved, first to last. -/
def unescape (octets : Bytes) : Guarded Bytes :=
  loop (octets.length - ·.2) (unescapeTurn octets) ([], 0)

/-- A mark and a code are resolved together. -/
theorem unescape_mark {code meant : UInt8} (h : Escape.meaning? code = some meant) (rest : Bytes) :
    Watch.unescape (Escape.mark :: code :: rest) = meant :: Watch.unescape rest := by
  rw [unescape_cons, unescape_cons, Escape.push_of_ne (Escape.meaning?_eq_some h).2,
    Escape.push_mark h]

/-- Any other octet stands for itself. -/
theorem unescape_of_none {octet : UInt8} {rest : Bytes}
    (h : (if octet = Escape.mark then rest[0]?.bind Escape.meaning? else none) = none) :
    Watch.unescape (octet :: rest) = octet :: Watch.unescape rest := by
  by_cases marked : octet = Escape.mark
  · rw [if_pos marked] at h
    subst marked
    cases rest with
    | nil => rfl
    | cons code after => exact Escape.push_mark_unescape h after
  · rw [unescape_cons, Escape.push_of_ne marked]

/-- No place is outside when pairs are resolved. -/
theorem unescape_eq {octets : Bytes} (held : octets.length < 2 ^ 63) :
    Checked.unescape octets = .ok (Watch.unescape octets) := by
  refine loop_eq (fun _ => True) (fun s : Bytes × Nat => s.1 ++ Watch.unescape (octets.drop s.2))
    ?_ trivial
  rintro ⟨out, i⟩ -
  dsimp only
  by_cases inside : i < octets.length
  · refine .inr ?_
    have here := List.drop_eq_getElem_cons inside
    have next : octets[i + 1]? = (octets.drop (i + 1))[0]? := by rw [List.getElem?_drop]
    rw [unescapeTurn, if_pos inside, entry_of_getElem? (List.getElem?_eq_getElem inside), ok_bind,
      word_of_lt (by omega), ok_bind, next]
    cases meant : (if octets[i] = Escape.mark then (octets.drop (i + 1))[0]?.bind Escape.meaning?
      else none) with
    | none =>
      refine ⟨_, rfl, trivial, by dsimp only; omega, ?_⟩
      rw [here, unescape_of_none meant, List.append_assoc]
      rfl
    | some octet =>
      have marked : octets[i] = Escape.mark := by
        by_contra other
        rw [if_neg other] at meant
        cases meant
      rw [if_pos marked, ← next] at meant
      obtain ⟨code, there, meant⟩ := Option.bind_eq_some_iff.1 meant
      obtain ⟨inside, rfl⟩ := List.getElem?_eq_some_iff.1 there
      refine ⟨_, by rw [word_of_lt (by omega)]; rfl, trivial, by dsimp only; omega, ?_⟩
      rw [here, List.drop_eq_getElem_cons inside, marked, unescape_mark meant, List.append_assoc]
      rfl
  · left
    rw [unescapeTurn, if_neg inside, List.drop_eq_nil_of_le (Nat.not_lt.1 inside), unescape_nil,
      List.append_nil]
    rfl

/-! ### Noise -/

/-- Moves on to the next opening bracket, and past it if there is no header. -/
def skipTurn (buffer : Bytes) : Guarded (Bytes ⊕ Front) :=
  match buffer.findIdx? (· == opening) with
  | none => pure (.inr (.open []))
  | some start => do
    let buffer ← after buffer start
    match ← Header.Checked.scan buffer with
    | .complete header => pure (.inr (.header header buffer))
    | .incomplete => pure (.inr (.open buffer))
    | .invalid => pure (.inl (← after buffer 1))

/-- Drops the octets before the first header. -/
def skipNoise (buffer : Bytes) : Guarded Front := loop List.length skipTurn buffer

/-- The buffer is never moved on further than to its end. -/
theorem skipNoise_eq {buffer : Bytes} (held : buffer.length < 2 ^ 63) :
    Checked.skipNoise buffer = .ok (Watch.skipNoise buffer) := by
  refine loop_eq (fun buffer => buffer.length < 2 ^ 63) Watch.skipNoise ?_ held
  intro buffer held
  by_cases opens : opening ∈ buffer
  · obtain ⟨front, rest, rfl, silent⟩ := List.eq_append_cons_of_mem opens
    have within : (opening :: rest).length < 2 ^ 63 := by
      rw [List.length_append] at held
      omega
    have next : after (opening :: rest) 1 = .ok rest := after_of_le (by simp)
    rw [skipTurn, findIdx?_append_cons silent]
    dsimp only
    rw [after_of_parts rfl rfl, ok_bind, Header.Checked.scan_eq within, ok_bind,
      skipNoise_append_of_notMem _ silent, Watch.skipNoise, if_neg (not_not_intro rfl)]
    cases Header.scan (opening :: rest) with
    | complete header => exact .inl rfl
    | incomplete => exact .inl rfl
    | invalid =>
      refine .inr ⟨rest, by rw [next]; rfl, ?_, ?_, rfl⟩
      · simp only [List.length_cons] at within
        omega
      · simp only [List.length_append, List.length_cons]
        omega
  · left
    have whole := skipNoise_append_of_notMem [] opens
    rw [List.append_nil] at whole
    rw [skipTurn, findIdx?_of_notMem opens, whole]
    rfl

/-! ### Contents -/

/-- Takes one more octet of the content, or a pair, onto the frame. -/
def takeTurn (buffer : Bytes) (header : Header) (s : Bytes × Nat) :
    Guarded (Bytes × Nat ⊕ Bytes × Nat) := do
  let (frame, place) := s
  let taken ← less frame.length header.contentStart
  if taken < header.length ∧ place < buffer.length then
    let octet ← entry buffer place
    let next ← word (place + 1)
    if octet = Escape.mark then
      if next < buffer.length then
        match Escape.meaning? (← entry buffer next) with
        | some meant => pure (.inl (frame ++ [meant], ← word (place + 2)))
        | none => pure (.inl (frame ++ [octet], next))
      else pure (.inr s)
    else pure (.inl (frame ++ [octet], next))
  else pure (.inr s)

/-- The frame with as much of its content as is there, and the place behind that. -/
def takeContent (buffer : Bytes) (header : Header) (head : Bytes) : Guarded (Bytes × Nat) :=
  loop (buffer.length - ·.2) (takeTurn buffer header) (head, header.contentStart)

/-- What taking a content comes to, in a frame and a place. -/
inductive Took (buffer head : Bytes) (length : Nat) :
    Option (Bytes × Bytes) → Bytes × Nat → Prop where
  | part {content : Bytes} {place : Nat} (short : content.length < length) :
    Took buffer head length none (head ++ content, place)
  | whole {content : Bytes} {place : Nat} (full : content.length = length)
    (inside : place ≤ buffer.length) :
    Took buffer head length (some (content, buffer.drop place)) (head ++ content, place)

/-- An octet that is not a mark is taken as it is. -/
theorem takeResolved_of_ne {b : UInt8} (unmarked : b ≠ Escape.mark) (taken : Bytes) (count : Nat)
    (rest : Bytes) :
    takeResolved taken (count + 1) (b :: rest) = takeResolved (b :: taken) count rest := by
  cases rest with
  | nil => rw [takeResolved, if_neg unmarked]
  | cons code after => rw [takeResolved, if_neg unmarked]

/-- Taking has come to a frame and a place, from which it ends as from the start. -/
structure Taking (buffer head : Bytes) (header : Header) (content : Bytes) (s : Bytes × Nat) :
    Prop where
  frame_eq : s.1 = head ++ content
  fits : content.length ≤ header.length
  inside : s.2 ≤ buffer.length
  same : takeResolved content.reverse (header.length - content.length) (buffer.drop s.2) =
    takeResolved [] header.length (buffer.drop header.contentStart)

/-- One more octet of the content, behind which taking goes on at a later place. -/
theorem Taking.onward {buffer head content : Bytes} {header : Header} {place next : Nat}
    {octet : UInt8} (taking : Taking buffer head header content (head ++ content, place))
    (inside : next ≤ buffer.length) (short : content.length < header.length)
    (taken : takeResolved content.reverse (header.length - (content.length + 1) + 1)
      (buffer.drop place) =
      takeResolved (octet :: content.reverse) (header.length - (content.length + 1))
        (buffer.drop next)) :
    Taking buffer head header (content ++ [octet]) (head ++ content ++ [octet], next) where
  frame_eq := List.append_assoc _ _ _
  fits := by simpa using Nat.succ_le_of_lt short
  inside := inside
  same := by
    have left : header.length - content.length = header.length - (content.length + 1) + 1 := by
      omega
    rw [← taking.same, left, taken, List.reverse_append, List.length_append]
    rfl

/-- Nothing is taken from outside of the buffer, and taking comes to what is taken octet by
octet. -/
theorem takeContent_took {buffer head : Bytes} {header : Header} (held : buffer.length < 2 ^ 63)
    (start : header.contentStart ≤ buffer.length) (opens : head.length = header.contentStart) :
    ∃ s, takeContent buffer header head = .ok s ∧
      Took buffer head header.length
        (takeResolved [] header.length (buffer.drop header.contentStart)) s := by
  refine loop_ends (fun s => ∃ content, Taking buffer head header content s) ?_
    ⟨[], by simp, Nat.zero_le _, start, rfl⟩
  rintro ⟨frame, place⟩ ⟨content, taking⟩
  obtain rfl : frame = head ++ content := taking.frame_eq
  rw [takeTurn]
  dsimp only
  rw [List.length_append, opens, less_of_le (Nat.le_add_right _ _), ok_bind,
    Nat.add_sub_cancel_left]
  by_cases more : content.length < header.length ∧ place < buffer.length
  · obtain ⟨short, there⟩ := more
    have here := List.drop_eq_getElem_cons there
    rw [if_pos ⟨short, there⟩, entry_of_getElem? (List.getElem?_eq_getElem there), ok_bind,
      word_of_lt (by omega), ok_bind]
    by_cases marked : buffer[place] = Escape.mark
    · rw [if_pos marked]
      by_cases paired : place + 1 < buffer.length
      · have next := List.drop_eq_getElem_cons paired
        rw [if_pos paired, entry_of_getElem? (List.getElem?_eq_getElem paired), ok_bind]
        cases meant : Escape.meaning? buffer[place + 1] with
        | none =>
          refine .inr ⟨_, rfl, ⟨_, taking.onward there short ?_⟩, by dsimp only; omega⟩
          rw [here, next, takeResolved, if_pos marked, meant]
        | some octet =>
          rw [word_of_lt (by omega)]
          refine .inr ⟨_, rfl, ⟨_, taking.onward paired short ?_⟩, by dsimp only; omega⟩
          rw [here, next, takeResolved, if_pos marked, meant]
      · -- a mark at the end may yet become a pair
        have alone : buffer.drop place = [Escape.mark] := by
          rw [here, marked, List.drop_eq_nil_of_le (Nat.not_lt.1 paired)]
        have left : header.length - content.length = header.length - (content.length + 1) + 1 := by
          omega
        rw [if_neg paired, ← taking.same, left]
        refine .inl ⟨_, rfl, ?_⟩
        dsimp only
        rw [alone]
        exact .part short
    · rw [if_neg marked]
      refine .inr ⟨_, rfl, ⟨_, taking.onward there short ?_⟩, by dsimp only; omega⟩
      rw [here, takeResolved_of_ne marked]
  · rw [if_neg more, ← taking.same]
    refine .inl ⟨_, rfl, ?_⟩
    obtain full | short := Nat.eq_or_lt_of_le taking.fits
    · rw [full, Nat.sub_self, takeResolved, List.reverse_reverse]
      exact .whole full taking.inside
    · have empty : buffer.drop place = [] := List.drop_eq_nil_of_le (by omega)
      have left : header.length - content.length = header.length - (content.length + 1) + 1 := by
        omega
      dsimp only
      rw [empty, left, takeResolved]
      exact .part short

/-! ### Frames -/

/-- Cuts the frame that ends at the first closing bracket after its header. -/
def cutAtBracket (limit : Nat) (buffer : Bytes) (header : Header) : Guarded Framing.Step := do
  let raw ← after buffer header.contentStart
  match raw.findIdx? (· == closing) with
  | none => pure (pause limit buffer)
  | some offset =>
    let place ← word (header.contentStart + offset)
    let (front, rest) ← cut buffer (← word (place + 1))
    pure (.unit (← Checked.unescape front) rest)

/-- Cuts the frame of a header at the front of the buffer. -/
def cutFrame (limit : Nat) (buffer : Bytes) (header : Header) : Guarded Framing.Step := do
  let _room ← word ((← word (header.contentStart + header.length)) + 1)
  let head ← slice buffer 0 header.contentStart
  let (frame, place) ← takeContent buffer header head
  let taken ← less frame.length header.contentStart
  if taken < header.length ∨ buffer.length ≤ place then pure (pause limit buffer)
  else if (← entry buffer place) = closing then
    let rest ← after buffer (← word (place + 1))
    pure (.unit (frame ++ [closing]) rest)
  else cutAtBracket limit buffer header

/-- Looks for a frame at the front of a buffer. -/
def step (limit : Nat) (buffer : Bytes) : Guarded Framing.Step := do
  match ← Checked.skipNoise buffer with
  | .open rest => pure (pause limit rest)
  | .header header rest => Checked.cutFrame limit rest header

theorem cutAtBracket_eq {limit : Nat} {buffer : Bytes} {header : Header}
    (held : buffer.length < 2 ^ 63) (start : header.contentStart ≤ buffer.length) :
    Checked.cutAtBracket limit buffer header = .ok (Watch.cutAtBracket limit
      (buffer.take header.contentStart) (buffer.drop header.contentStart)) := by
  have length : (buffer.take header.contentStart).length = header.contentStart :=
    List.length_take_of_le start
  have whole := List.take_append_drop header.contentStart buffer
  generalize buffer.take header.contentStart = head at *
  generalize buffer.drop header.contentStart = raw at *
  subst whole
  rw [Checked.cutAtBracket, after_of_parts rfl length.symm, ok_bind, Watch.cutAtBracket]
  cases closes : Bytes.cut? closing raw with
  | none =>
    rw [findIdx?_of_notMem (Bytes.notMem_of_cut?_eq_none closes)]
    rfl
  | some parts =>
    obtain ⟨content, rest⟩ := parts
    obtain ⟨rfl, ends⟩ := Bytes.cut?_eq_some closes
    have front : head ++ (content ++ closing :: rest) = (head ++ content ++ [closing]) ++ rest :=
      by simp
    have place : header.contentStart + content.length + 1 =
        (head ++ content ++ [closing]).length := by
      simp [length, Nat.add_assoc]
    rw [front, List.length_append, ← place] at held
    have short : (head ++ content ++ [closing]).length < 2 ^ 63 := by omega
    rw [findIdx?_append_cons ends]
    dsimp only
    rw [word_of_lt (by omega), ok_bind, word_of_lt (by omega), ok_bind, front, place,
      cut_of_le (by simp), ok_bind, List.take_left, List.drop_left]
    dsimp only
    rw [unescape_eq short]
    rfl

theorem cutFrame_eq {limit : Nat} {buffer : Bytes} {header : Header} (held : buffer.length < 2 ^ 63)
    (start : header.contentStart ≤ buffer.length) (short : header.length ≤ 65535) :
    Checked.cutFrame limit buffer header = .ok (Watch.cutFrame limit header.length
      (buffer.take header.contentStart) (buffer.drop header.contentStart)) := by
  have length : (buffer.take header.contentStart).length = header.contentStart :=
    List.length_take_of_le start
  obtain ⟨s, taken, took⟩ := takeContent_took held start length
  have head : slice buffer 0 header.contentStart = .ok (buffer.take header.contentStart) :=
    slice_of_le (Nat.zero_le _) start
  rw [Checked.cutFrame, word_of_lt (by omega), ok_bind, word_of_lt (by omega), ok_bind, head,
    ok_bind, taken, ok_bind, Watch.cutFrame]
  have whole := List.take_append_drop header.contentStart buffer
  generalize takeResolved [] header.length (buffer.drop header.contentStart) = result at took ⊢
  cases took with
  | part less =>
    dsimp only
    rw [List.length_append, length, less_of_le (Nat.le_add_right _ _), ok_bind,
      Nat.add_sub_cancel_left, if_pos (.inl less), whole]
    rfl
  | @whole content place full inside =>
    dsimp only
    rw [List.length_append, length, less_of_le (Nat.le_add_right _ _), ok_bind,
      Nat.add_sub_cancel_left]
    by_cases ends : buffer.length ≤ place
    · rw [if_pos (.inr ends), List.drop_eq_nil_of_le ends, whole]
      rfl
    · have there : place < buffer.length := Nat.not_le.1 ends
      rw [if_neg (by omega), entry_of_getElem? (List.getElem?_eq_getElem there), ok_bind,
        List.drop_eq_getElem_cons there]
      dsimp only
      by_cases closes : buffer[place] = closing
      · rw [if_pos closes, if_pos closes, word_of_lt (by omega), ok_bind,
          after_of_le there, ok_bind]
        rfl
      · rw [if_neg closes, if_neg closes, cutAtBracket_eq held start]

/-- The header that is come to starts a frame in what is left, and declares what four digits can. -/
theorem bounds_of_skipNoise {buffer rest : Bytes} {header : Header}
    (h : Watch.skipNoise buffer = .header header rest) :
    header.contentStart ≤ rest.length ∧ header.length ≤ 65535 := by
  have scanned := (skipNoise_again buffer).1 h
  obtain ⟨first, second, deviceId, index, found⟩ := Header.exists_readFrom scanned
  obtain ⟨digits, written, length⟩ := found.length_eq
  exact ⟨Header.contentStart_le_length (Header.scan_eq_complete.1 scanned),
    length.trans_le (Header.lengthOf_le written)⟩

/-- Nothing is out of range when a frame is cut out of a buffer. -/
theorem step_eq {limit : Nat} {buffer : Bytes} (held : buffer.length < 2 ^ 63) :
    Checked.step limit buffer = .ok (Watch.step limit buffer) := by
  rw [Checked.step, skipNoise_eq held, ok_bind, Watch.step]
  cases front : Watch.skipNoise buffer with
  | «open» rest => rfl
  | header header rest =>
    obtain ⟨start, short⟩ := bounds_of_skipNoise front
    have shorter := length_le_of_skipNoise_header front
    exact cutFrame_eq (by omega) start short

end TrackerGateway.Watch.Checked
