import TrackerGateway.Bytes.Basic

/-!
# Escapes in the content of watch frames

Five octets have a meaning of their own in a frame or in its content. In binary content each of
them stands as a pair of octets, the mark and a code (`meaning?`). `unescape` puts the octets in
the place of their pairs; a mark without a code stands for itself.
-/

namespace TrackerGateway.Watch

namespace Escape

/-- The octet that opens a pair. -/
def mark : UInt8 := 0x7D

/-- The octet that a code stands for. -/
def meaning? (code : UInt8) : Option UInt8 :=
  match code.toNat with
  | 1 => some 0x7D
  | 2 => some 0x5B
  | 3 => some 0x5D
  | 4 => some 0x2C
  | 5 => some 0x2A
  | _ => none

/-- Puts an octet before what follows it, or makes a pair of the two. The octet that a pair stands
for is never a code, so it does not matter that pairs are found from the end. -/
def push (octet : UInt8) (following : Bytes) : Bytes :=
  match following with
  | [] => [octet]
  | code :: rest =>
    match if octet = mark then meaning? code else none with
    | some meant => meant :: rest
    | none => octet :: following

end Escape

/-- The octets with every pair resolved. -/
def unescape (octets : Bytes) : Bytes := octets.foldr Escape.push []

namespace Escape

theorem meaning?_eq_some {code meant : UInt8} (h : meaning? code = some meant) :
    meaning? meant = none ∧ code ≠ mark := by
  constructor
  · unfold meaning? at h
    split at h <;> cases h <;> rfl
  · rintro rfl
    cases h

theorem push_of_ne {octet : UInt8} (h : octet ≠ mark) (following : Bytes) :
    push octet following = octet :: following := by
  unfold push
  split
  · rfl
  · simp [h]

/-- A mark and a code make the octet that the code stands for. -/
theorem push_mark {code meant : UInt8} (h : meaning? code = some meant) (following : Bytes) :
    push mark (code :: following) = meant :: following := by
  simp [push, h]

theorem length_push_le (octet : UInt8) (following : Bytes) :
    (push octet following).length ≤ following.length + 1 := by
  unfold push
  split
  · simp
  · split <;> simp

end Escape

@[simp] theorem unescape_nil : unescape [] = [] := rfl

@[simp] theorem unescape_cons (octet : UInt8) (octets : Bytes) :
    unescape (octet :: octets) = Escape.push octet (unescape octets) := rfl

theorem length_unescape_le (octets : Bytes) : (unescape octets).length ≤ octets.length := by
  induction octets with
  | nil => simp
  | cons octet rest ih =>
    have := Escape.length_push_le octet (unescape rest)
    simp only [unescape_cons, List.length_cons]
    omega

end TrackerGateway.Watch
