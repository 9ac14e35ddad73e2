import TrackerGateway.Bytes.Basic
import TrackerGateway.Bytes.Bits
import TrackerGateway.Text.Trim
import TrackerGateway.Text.Utf8
import TrackerGateway.Error

/-!
# A reader's place in a byte string

The octets already read and those still to come are kept apart, so the place is never outside. A
read that asks for too much reports what it needed and what was there, and the place stays. `take`
is the one read from which the others are made; `readFields` reads the fields of a table that a
flag announces.
-/

namespace TrackerGateway

/-- A place in a byte string: the octets before it, last first, and those after it. -/
structure Reader where
  before : Bytes
  rest : Bytes
  deriving DecidableEq, Repr

namespace Reader

/-- The start of a byte string. -/
def ofBytes (bytes : Bytes) : Reader := ⟨[], bytes⟩

/-- The whole byte string. -/
def data (r : Reader) : Bytes := r.before.reverseAux r.rest

/-- How many octets have been read. -/
def position (r : Reader) : Nat := r.before.length

/-- How many octets are left. -/
def remaining (r : Reader) : Nat := r.rest.length

/-- Whether no octet is left. -/
def isEmpty (r : Reader) : Bool := r.rest.isEmpty

/-- The place `position` octets from the start. -/
def seek (r : Reader) (position : Nat) : Except ProtocolFault Reader :=
  let data := r.data
  if position ≤ data.length then .ok ⟨(data.take position).reverse, data.drop position⟩
  else .error (.truncated position data.length)

/-- The octet `offset` places ahead. -/
def peek (r : Reader) (offset : Nat) : Except ProtocolFault UInt8 :=
  match r.rest[offset]? with
  | some b => .ok b
  | none => .error (.truncated (offset + 1) r.remaining)

/-- The number of two octets `offset` places ahead. -/
def peekLe16 (r : Reader) (offset : Nat) : Except ProtocolFault Nat :=
  match r.rest.drop offset with
  | low :: high :: _ => .ok (Bytes.le [low, high])
  | _ => .error (.truncated (offset + 2) r.remaining)

/-- Reads so many octets. -/
def take (r : Reader) (count : Nat) : Except ProtocolFault (Bytes × Reader) :=
  if Bytes.hasAtLeast count r.rest then
    let bytes := r.rest.take count
    .ok (bytes, ⟨bytes.reverseAux r.before, r.rest.drop count⟩)
  else .error (.truncated count r.remaining)

/-- Passes over so many octets. -/
def skip (r : Reader) (count : Nat) : Except ProtocolFault Reader := (r.take count).map (·.2)

/-- Reads a number of so many octets, least significant first. -/
def le (r : Reader) (width : Nat) : Except ProtocolFault (Nat × Reader) :=
  (r.take width).map fun (bytes, r) => (Bytes.le bytes, r)

/-- Reads a number of so many octets, most significant first. -/
def be (r : Reader) (width : Nat) : Except ProtocolFault (Nat × Reader) :=
  (r.take width).map fun (bytes, r) => (Bytes.be bytes, r)

/-- Reads a two's complement number of so many octets, least significant first. -/
def signedLe (r : Reader) (width : Nat) : Except ProtocolFault (Int × Reader) :=
  (r.le width).map fun (n, r) => (Bytes.signed (8 * width) n, r)

/-- Padding around a text of fixed width. -/
def isPad (c : Char) : Bool := c.toNat == 0 || Text.isBlank c

/-- The text of octets of a fixed width field, less the padding. -/
def paddedText (bytes : Bytes) : String :=
  String.ofList (Text.trimmed isPad (Utf8.decodeLossy bytes).toList)

/-- Reads a text of fixed width. -/
def text (r : Reader) (width : Nat) : Except ProtocolFault (String × Reader) :=
  (r.take width).map fun (bytes, r) => (paddedText bytes, r)

/-- A field that is there if a bit of the flags is set. -/
structure FlagField where
  bit : Nat
  width : Nat
  deriving DecidableEq, Repr

/-- Reads each field of a table whose bit is set, in the order of the table, onto the fields `seen`
so far, last first. Reading ends at the first field that does not fit, and the cause is told. -/
def fieldsOnto (flags : Nat) :
    List FlagField → List (FlagField × Bytes) → Reader →
      List (FlagField × Bytes) × Reader × Option ProtocolFault
  | [], seen, r => (seen.reverse, r, none)
  | field :: table, seen, r =>
    if Bits.isSet flags field.bit then
      match r.take field.width with
      | .ok (bytes, r) => fieldsOnto flags table ((field, bytes) :: seen) r
      | .error fault => (seen.reverse, r, some fault)
    else fieldsOnto flags table seen r

/-- The fields of a table that the flags announce, with their octets, the place after them, and the
cause if not all of them fit. -/
def fields (r : Reader) (flags : Nat) (table : List FlagField) :
    List (FlagField × Bytes) × Reader × Option ProtocolFault :=
  fieldsOnto flags table [] r

/-- The same where all of the announced fields are wanted. -/
def allFields (r : Reader) (flags : Nat) (table : List FlagField) :
    Except ProtocolFault (List (FlagField × Bytes) × Reader) :=
  match r.fields flags table with
  | (found, r, none) => .ok (found, r)
  | (_, _, some fault) => .error fault

theorem peek_of_lt {r : Reader} {offset : Nat} (h : offset < r.remaining) :
    r.peek offset = .ok (r.rest.getD offset 0) := by
  rw [peek, List.getD_eq_getElem?_getD, List.getElem?_eq_getElem h]
  rfl

theorem peekLe16_of_le {r : Reader} {offset : Nat} (h : offset + 2 ≤ r.remaining) :
    r.peekLe16 offset = .ok (Bytes.le ((r.rest.drop offset).take 2)) := by
  have there : 2 ≤ (r.rest.drop offset).length := by
    rw [List.length_drop]
    exact Nat.le_sub_of_add_le' h
  unfold peekLe16
  match r.rest.drop offset, there with
  | _ :: _ :: _, _ => rfl

/-- A read hands over the next octets and keeps the byte string as it is. -/
theorem take_of_le {r : Reader} {count : Nat} (h : count ≤ r.remaining) :
    r.take count = .ok
        (r.rest.take count, ⟨(r.rest.take count).reverseAux r.before, r.rest.drop count⟩) := by
  simp [take, (Bytes.hasAtLeast_iff count r.rest).2 h]

theorem take_of_lt {r : Reader} {count : Nat} (h : r.remaining < count) :
    r.take count = .error (.truncated count r.remaining) := by
  have : ¬ Bytes.hasAtLeast count r.rest = true := by
    rw [Bytes.hasAtLeast_iff]
    exact Nat.not_le.2 h
  simp [take, this]

/-- A read of `count` octets leaves so many fewer. -/
theorem length_of_take {r r' : Reader} {count : Nat} {bytes : Bytes}
    (h : r.take count = .ok (bytes, r')) : r'.rest.length + count = r.rest.length := by
  unfold take at h
  split at h
  · rename_i hc
    cases h
    have := (Bytes.hasAtLeast_iff count r.rest).1 hc
    simp only [List.length_drop]
    omega
  · cases h

theorem length_of_le {r r' : Reader} {width n : Nat} (h : r.le width = .ok (n, r')) :
    r'.rest.length + width = r.rest.length := by
  unfold le at h
  cases ht : r.take width with
  | error fault => rw [ht] at h; cases h
  | ok taken =>
    rw [ht] at h
    cases h
    exact length_of_take ht

/-- Reading fields never adds octets. -/
theorem length_of_fieldsOnto (flags : Nat) (table : List FlagField) :
    ∀ (seen : List (FlagField × Bytes)) (r : Reader),
      (fieldsOnto flags table seen r).2.1.rest.length ≤ r.rest.length := by
  induction table with
  | nil => intro seen r; simp [fieldsOnto]
  | cons field table ih =>
    intro seen r
    unfold fieldsOnto
    split
    · split
      · rename_i ht
        exact Nat.le_trans (ih _ _) (by have := length_of_take ht; omega)
      · exact Nat.le_refl _
    · exact ih _ _

theorem length_of_allFields {r r' : Reader} {flags : Nat} {table : List FlagField}
    {found : List (FlagField × Bytes)} (h : r.allFields flags table = .ok (found, r')) :
    r'.rest.length ≤ r.rest.length := by
  have := length_of_fieldsOnto flags table [] r
  unfold allFields fields at h
  split at h
  · rename_i he
    rw [he] at this
    cases h
    exact this
  · cases h

end Reader
end TrackerGateway
