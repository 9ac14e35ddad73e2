import TrackerGateway.Protocol
import TrackerGateway.Proofs.Watch.Segmentation

/-!
# Frames that come in datagrams

A datagram is one unit with all its pairs resolved. Off a stream a frame is cut while its pairs
are resolved one by one, up to the declared length, or else it is cut at a bracket and resolved as
a whole. All three ways to resolve agree (`unescape_of_step`): the unit of a datagram is the frame
that the stream framing cuts off its front, followed by whatever it would drop as noise after that
frame (`datagramUnit_of_alone`).
-/

namespace TrackerGateway.Watch

/-! ### Resolving parts -/

namespace Escape

theorem push_ne_nil (octet : UInt8) (following : Bytes) : push octet following ≠ [] := by
  unfold push
  split
  · exact List.cons_ne_nil _ _
  · split
    · exact List.cons_ne_nil _ _
    · exact List.cons_ne_nil _ _

theorem push_append {octet : UInt8} {following : Bytes} (more : Bytes) (there : following ≠ []) :
    push octet (following ++ more) = push octet following ++ more := by
  match following with
  | [] => exact absurd rfl there
  | code :: rest =>
    simp only [List.cons_append, push]
    split <;> rfl

/-- What stands after an octet that is no code does not become one by being resolved. -/
theorem push_mark_unescape {code : UInt8} (plain : meaning? code = none) (after : Bytes) :
    push mark (unescape (code :: after)) = mark :: unescape (code :: after) := by
  rw [unescape_cons]
  by_cases marked : code = mark
  · subst marked
    have unpaired : meaning? mark = none := rfl
    match unescape after with
    | [] => rfl
    | next :: rest =>
      cases meant : meaning? next with
      | none => simp [push, meant, unpaired]
      | some octet => simp [push, meant, (meaning?_eq_some meant).1]
  · rw [push_of_ne marked]
    simp [push, plain]

end Escape

theorem unescape_eq_nil_iff {octets : Bytes} : unescape octets = [] ↔ octets = [] := by
  cases octets with
  | nil => exact Iff.rfl
  | cons octet rest => simp [Escape.push_ne_nil]

theorem unescape_append_of_notMem {front : Bytes} (clear : Escape.mark ∉ front) (rest : Bytes) :
    unescape (front ++ rest) = front ++ unescape rest := by
  induction front with
  | nil => rfl
  | cons octet front ih =>
    rw [List.mem_cons, not_or] at clear
    rw [List.cons_append, unescape_cons, ih clear.2, Escape.push_of_ne (Ne.symm clear.1)]
    rfl

/-- No pair reaches over an octet that is not a mark. -/
theorem unescape_append_cons {octet : UInt8} (unmarked : octet ≠ Escape.mark) (front rest : Bytes) :
    unescape (front ++ octet :: rest) = unescape (front ++ [octet]) ++ unescape rest := by
  induction front with
  | nil => simp [Escape.push_of_ne unmarked]
  | cons first front ih =>
    have there : unescape (front ++ [octet]) ≠ [] := mt unescape_eq_nil_iff.1 (by simp)
    rw [List.cons_append, List.cons_append, unescape_cons, unescape_cons, ih,
      Escape.push_append _ there]

/-- Octets taken off one by one, pairs resolved, are those of the whole when it is resolved at
once. -/
theorem unescape_of_takeResolved {taken raw content rest : Bytes} {count : Nat}
    (h : takeResolved taken count raw = some (content, rest)) :
    taken.reverse ++ unescape raw = content ++ unescape rest := by
  fun_induction takeResolved taken count raw with
  | case1 taken rest =>
    cases h
    rfl
  | case2 => cases h
  | case3 => cases h
  | case4 taken count code after meant paired ih =>
    have unmarked := (Escape.meaning?_eq_some paired).2
    rw [← ih h, unescape_cons, unescape_cons, Escape.push_of_ne unmarked, Escape.push_mark paired]
    simp
  | case5 taken count code after unpaired ih =>
    rw [← ih h, unescape_cons, Escape.push_mark_unescape unpaired]
    simp
  | case6 taken count octet rest unmarked ih =>
    rw [← ih h, unescape_cons, Escape.push_of_ne unmarked]
    simp

/-! ### Frames -/

theorem closing_ne_mark : closing ≠ Escape.mark := by decide

theorem unescape_of_cutAtBracket {limit : Nat} {head raw frame rest : Bytes}
    (cut : cutAtBracket limit head raw = .unit frame rest) :
    unescape (head ++ raw) = frame ++ unescape rest := by
  unfold cutAtBracket at cut
  split at cut
  · rename_i content after found
    cases cut
    rw [(Bytes.cut?_eq_some found).1, ← List.append_assoc]
    exact unescape_append_cons closing_ne_mark _ _
  · exact absurd cut pause_ne_unit

theorem unescape_of_cutFrame {limit length : Nat} {head raw frame rest : Bytes}
    (clear : Escape.mark ∉ head) (cut : cutFrame limit length head raw = .unit frame rest) :
    unescape (head ++ raw) = frame ++ unescape rest := by
  unfold cutFrame at cut
  split at cut
  · exact absurd cut pause_ne_unit
  · exact absurd cut pause_ne_unit
  · rename_i content octet after taken
    split at cut
    · rename_i closes
      cases cut
      subst closes
      have resolved := unescape_of_takeResolved taken
      rw [unescape_cons, Escape.push_of_ne closing_ne_mark] at resolved
      rw [unescape_append_of_notMem clear, List.append_assoc, List.append_assoc]
      exact congrArg (head ++ ·) resolved
    · exact unescape_of_cutAtBracket cut

/-- A buffer that begins with a header without marks: resolved as a whole it is the frame that is
cut off it, whichever way that is, and then what comes after the frame. -/
theorem unescape_of_step {limit : Nat} {buffer frame rest : Bytes} {header : Header}
    (scanned : Header.scan buffer = .complete header)
    (clear : Escape.mark ∉ buffer.take header.contentStart)
    (cut : step limit buffer = .unit frame rest) :
    unescape buffer = frame ++ unescape rest := by
  rw [step_of_header (skipNoise_of_complete scanned)] at cut
  have resolved := unescape_of_cutFrame clear cut
  rwa [List.take_append_drop] at resolved

/-- A datagram from which the stream framing cuts one frame and leaves nothing. The framing may have
dropped octets as noise after the frame; the unit of the datagram has them too, so it is the frame
exactly if the frame ends where the datagram does. -/
theorem datagramUnit_of_alone {limit : Nat} {datagram frame : Bytes} {header : Header}
    (scanned : Header.scan datagram = .complete header)
    (clear : Escape.mark ∉ datagram.take header.contentStart)
    (alone : (framing limit).drain datagram = ⟨[frame], [], none⟩) :
    ∃ noise, (framing limit).step datagram = .unit frame noise ∧
      (framing limit).drain noise = ⟨[], [], none⟩ ∧
      Protocol.watch.datagramUnit datagram = frame ++ unescape noise ∧
      (frame = Protocol.watch.datagramUnit datagram ↔ noise = []) := by
  cases cut : (framing limit).step datagram with
  | wait rest =>
    rw [Framing.drain_of_wait cut] at alone
    cases alone
  | failed error rest =>
    rw [Framing.drain_of_failed cut] at alone
    cases alone
  | unit first noise =>
    rw [Framing.drain_of_unit cut, Framing.Drained.mk.injEq, List.cons.injEq] at alone
    obtain ⟨⟨rfl, none_after⟩, left, calm⟩ := alone
    have whole : Protocol.watch.datagramUnit datagram = first ++ unescape noise :=
      unescape_of_step scanned clear cut
    refine ⟨noise, rfl, ?_, whole, ?_⟩
    · rw [← none_after, ← left, ← calm]
    · rw [whole, List.self_eq_append_right]
      exact unescape_eq_nil_iff

/-- A frame whose length is right, with a pair in it and a mark before the bracket that opens
none. -/
theorem datagramUnit_of_sampleFrame :
    let datagram := "[3G*1*0004*a\x7d".toUTF8.toList ++ [3, 98, 125, 93]
    let frame := "[3G*1*0004*a]b\x7d]".toUTF8.toList
    (framing defaultLimit).drain datagram = ⟨[frame], [], none⟩ ∧
      frame = Protocol.watch.datagramUnit datagram := by
  intro datagram frame
  have alone : (framing defaultLimit).drain datagram = ⟨[frame], [], none⟩ := by decide +kernel
  have scanned : Header.scan datagram = .complete ⟨"3G", "1", none, 4, 11⟩ := by decide +kernel
  obtain ⟨noise, cut, -, -, same⟩ := datagramUnit_of_alone scanned (by decide +kernel) alone
  have ends : (framing defaultLimit).step datagram = .unit frame [] := by decide +kernel
  rw [ends] at cut
  cases cut
  exact ⟨alone, same.2 rfl⟩

/-- A line feed after the frame is noise in a stream, but stays in the unit of a datagram. -/
theorem not_datagramUnit_of_alone :
    ¬ ∀ (limit : Nat) (datagram frame : Bytes) (header : Header),
      Header.scan datagram = .complete header →
      Escape.mark ∉ datagram.take header.contentStart →
      (framing limit).drain datagram = ⟨[frame], [], none⟩ →
        frame = Protocol.watch.datagramUnit datagram := by
  intro claim
  have same := claim defaultLimit "[3G*1*0002*LK]\n".toUTF8.toList "[3G*1*0002*LK]".toUTF8.toList
    ⟨"3G", "1", none, 2, 11⟩ (by decide +kernel) (by decide +kernel) (by decide +kernel)
  have longer : "[3G*1*0002*LK]".toUTF8.toList ≠
      Protocol.watch.datagramUnit "[3G*1*0002*LK]\n".toUTF8.toList := by
    decide +kernel
  exact longer same

end TrackerGateway.Watch
