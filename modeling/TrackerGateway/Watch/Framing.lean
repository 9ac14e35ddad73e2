import TrackerGateway.Framing
import TrackerGateway.Watch.Escape
import TrackerGateway.Watch.Header

/-!
# Cutting a stream into watch frames

What stands before a header is noise and dropped. The header declares how long the content is, pairs
resolved; a frame that closes there is handed over with its pairs resolved. Where it does not close
there the length is wrong, and the frame ends at the first closing bracket instead.

A buffer that holds no whole frame may not grow past a limit.
-/

namespace TrackerGateway.Watch

/-- The greatest number of octets to wait with, where nothing else is said. -/
def defaultLimit : Nat := 1024 * 1024

/-- What a buffer holds after its noise. -/
inductive Front where
  /-- Nothing, or what may become a header. -/
  | open (rest : Bytes)
  /-- A frame, or the first part of one. -/
  | header (header : Header) (rest : Bytes)
  deriving DecidableEq, Repr

/-- Drops the octets before the first header. -/
def skipNoise : Bytes → Front
  | [] => .open []
  | b :: rest =>
    if b ≠ opening then skipNoise rest
    else
      match Header.scan (b :: rest) with
      | .complete header => .header header (b :: rest)
      | .incomplete => .open (b :: rest)
      | .invalid => skipNoise rest

/-- Takes octets off the front, pairs resolved, onto those `taken` in reverse order. A mark at the
end may yet become a pair. -/
def takeResolved (taken : Bytes) : Nat → Bytes → Option (Bytes × Bytes)
  | 0, rest => some (taken.reverse, rest)
  | _ + 1, [] => none
  | count + 1, b :: rest =>
    if b = Escape.mark then
      match rest with
      | [] => none
      | code :: after =>
        match Escape.meaning? code with
        | some meant => takeResolved (meant :: taken) count after
        | none => takeResolved (b :: taken) count rest
    else takeResolved (b :: taken) count rest

/-- Waits with a buffer, unless it is past the limit. -/
def pause (limit : Nat) (buffer : Bytes) : Framing.Step :=
  if limit < buffer.length then .failed (.frameTooLarge buffer.length limit) buffer
  else .wait buffer

/-- Cuts the frame that ends at the first closing bracket after its header. -/
def cutAtBracket (limit : Nat) (head raw : Bytes) : Framing.Step :=
  match Bytes.cut? closing raw with
  | some (content, rest) => .unit (unescape (head ++ content ++ [closing])) rest
  | none => pause limit (head ++ raw)

/-- Cuts the frame of a header, which stands before the raw content. -/
def cutFrame (limit : Nat) (length : Nat) (head raw : Bytes) : Framing.Step :=
  match takeResolved [] length raw with
  | none | some (_, []) => pause limit (head ++ raw)
  | some (content, b :: rest) =>
    if b = closing then .unit (head ++ content ++ [closing]) rest else cutAtBracket limit head raw

/-- Looks for a frame at the front of a buffer. -/
def step (limit : Nat) (buffer : Bytes) : Framing.Step :=
  match skipNoise buffer with
  | .open rest => pause limit rest
  | .header header rest =>
    cutFrame limit header.length (rest.take header.contentStart) (rest.drop header.contentStart)

theorem length_le_of_skipNoise_header {buffer rest : Bytes} {header : Header}
    (h : skipNoise buffer = .header header rest) : rest.length ≤ buffer.length := by
  induction buffer with
  | nil => simp [skipNoise] at h
  | cons b more ih =>
    simp only [skipNoise] at h
    split at h
    · have := ih h
      simp only [List.length_cons]
      omega
    · split at h
      · cases h
        exact Nat.le_refl _
      · cases h
      · have := ih h
        simp only [List.length_cons]
        omega

theorem length_le_of_takeResolved {taken raw content rest : Bytes} {count : Nat}
    (h : takeResolved taken count raw = some (content, rest)) : rest.length ≤ raw.length := by
  fun_induction takeResolved taken count raw with
  | case1 taken rest =>
    cases h
    exact Nat.le_refl _
  | case2 => cases h
  | case3 => cases h
  | case4 taken count code after meant hm ih =>
    have := ih h
    simp only [List.length_cons]
    omega
  | case5 taken count code after hm ih => exact Nat.le_trans (ih h) (Nat.le_succ _)
  | case6 taken count b rest hb ih => exact Nat.le_trans (ih h) (Nat.le_succ _)

theorem pause_ne_unit {limit : Nat} {buffer unit rest : Bytes} :
    pause limit buffer ≠ .unit unit rest := by
  unfold pause
  split <;> simp

theorem cutAtBracket_shorter {limit : Nat} {head raw unit rest : Bytes}
    (h : cutAtBracket limit head raw = .unit unit rest) : rest.length < raw.length := by
  unfold cutAtBracket at h
  split at h
  · rename_i content after hc
    cases h
    have := congrArg List.length (Bytes.cut?_eq_some hc).1
    simp only [List.length_append, List.length_cons] at this
    omega
  · exact absurd h pause_ne_unit

theorem cutFrame_shorter {limit length : Nat} {head raw unit rest : Bytes}
    (h : cutFrame limit length head raw = .unit unit rest) : rest.length < raw.length := by
  unfold cutFrame at h
  split at h
  · exact absurd h pause_ne_unit
  · exact absurd h pause_ne_unit
  · rename_i content b after ht
    split at h
    · cases h
      have := length_le_of_takeResolved ht
      simp only [List.length_cons] at this
      omega
    · exact cutAtBracket_shorter h

/-- Cutting of watch frames, with a limit to what may wait. -/
def framing (limit : Nat) : Framing where
  step := step limit
  shorter := by
    intro buffer unit rest h
    simp only [step] at h
    split at h
    · exact absurd h pause_ne_unit
    · rename_i header found hs
      have h1 := cutFrame_shorter h
      have h2 := length_le_of_skipNoise_header hs
      simp only [List.length_drop] at h1
      omega

end TrackerGateway.Watch
