import TrackerGateway.Proofs.Guarded.Basic
import TrackerGateway.Proofs.Watch.Header

/-!
# Reading the header of a watch frame by places in the buffer

The fields of a header are found by the places of the asterisks that end them, and picked out
between those. None of the places is outside of the buffer, and what is picked out makes the
header that is read field by field (`Checked.read_eq`, `Checked.scan_eq`).
-/

namespace TrackerGateway

/-- Octets that are not cut have no place to cut at. -/
theorem Bytes.notMem_of_cut?_eq_none {stop : UInt8} {octets : Bytes} (h : cut? stop octets = none) :
    stop ∉ octets := by
  intro member
  obtain ⟨front, rest, rfl, absent⟩ := List.eq_append_cons_of_mem member
  rw [cut?_of_notMem rest absent] at h
  cases h

namespace Watch.Header.Checked

open Guarded

/-- Whether octets are hexadecimal digits, at least one. -/
def areDigits (field : Bytes) : Bool := !field.isEmpty && field.all Hex.isDigitByte

/-- Whether the field that ends at a place is an index, once that can be told. -/
def isIndex? (buffer : Bytes) (fieldEnd : Nat) : Guarded (Option Bool) := do
  let lengthEnd ← word (fieldEnd + 5)
  if lengthEnd < buffer.length then
    if (← entry buffer lengthEnd) = star then
      let digits ← slice buffer (← word (fieldEnd + 1)) lengthEnd
      pure (some (areDigits digits))
    else pure (some false)
  else if (← find buffer fieldEnd closing).isSome then pure (some false)
  else pure none

/-- The header of an identifier that ends at a place, an index and a length. -/
def ofFields (buffer manufacturer : Bytes) (idEnd : Nat) (index : Option Bytes) (length : Bytes)
    (contentStart : Nat) : Guarded Scan :=
  if length.length ≠ 4 || !areDigits length then pure .invalid
  else do
    let deviceId ← slice buffer 4 idEnd
    pure <| .complete
      { manufacturer := Utf8.decodeLossy manufacturer
        deviceId := Utf8.decodeLossy deviceId
        index := index.map Utf8.decodeLossy
        length := lengthOf length
        contentStart }

/-- Reads on from the third field, which stands between two places. -/
def readLength (buffer manufacturer : Bytes) (idEnd fieldStart fieldEnd : Nat) : Guarded Scan := do
  match ← isIndex? buffer fieldEnd with
  | none => pure .incomplete
  | some true =>
    let index ← slice buffer fieldStart fieldEnd
    let length ← slice buffer (← word (fieldEnd + 1)) (← word (fieldEnd + 5))
    ofFields buffer manufacturer idEnd (some index) length (← word (fieldEnd + 6))
  | some false =>
    let length ← slice buffer fieldStart fieldEnd
    ofFields buffer manufacturer idEnd none length (← word (fieldEnd + 1))

/-- Reads on from the identifier. -/
def readFields (buffer manufacturer : Bytes) : Guarded Scan := do
  match ← find buffer 4 star with
  | none => pure .incomplete
  | some idEnd =>
    if idEnd = 4 then pure .invalid
    else
      let fieldStart ← word (idEnd + 1)
      match ← find buffer fieldStart star with
      | none => pure .incomplete
      | some fieldEnd => readLength buffer manufacturer idEnd fieldStart fieldEnd

/-- Reads the header at the front of a buffer, however much there is. -/
def read (buffer : Bytes) : Guarded Scan :=
  match buffer[0]? with
  | none => pure .incomplete
  | some b =>
    if b ≠ opening then pure .invalid
    else if buffer.length < 3 then pure .incomplete
    else
      match buffer[3]? with
      | none => pure .incomplete
      | some b => if b ≠ star then pure .invalid else readFields buffer ((buffer.drop 1).take 2)

/-- Reads the header at the front of a buffer. -/
def scan (buffer : Bytes) : Guarded Scan := do
  match ← read buffer with
  | .incomplete => if buffer.length < patience then pure .incomplete else pure .invalid
  | found => pure found

/-! ### No place is outside -/

variable {buffer manufacturer deviceId field after : Bytes}

/-- A buffer with two fields after a front of four octets. -/
structure Divided (buffer deviceId field after : Bytes) : Prop where
  whole : ∃ front, front.length = 4 ∧
    buffer = front ++ (deviceId ++ star :: (field ++ star :: after))
  held : buffer.length < 2 ^ 63

namespace Divided

variable (divided : Divided buffer deviceId field after)

include divided

theorem length_eq : buffer.length = 4 + deviceId.length + 1 + field.length + 1 + after.length := by
  obtain ⟨front, four, whole⟩ := divided.whole
  simp only [whole, List.length_append, List.length_cons, four]
  omega

theorem slice_deviceId : slice buffer 4 (4 + deviceId.length) = .ok deviceId := by
  obtain ⟨front, four, whole⟩ := divided.whole
  exact slice_of_parts whole four.symm (by rw [four])

theorem slice_field :
    slice buffer (4 + deviceId.length + 1) (4 + deviceId.length + 1 + field.length) =
        .ok field := by
  obtain ⟨front, four, whole⟩ := divided.whole
  have whole : buffer = (front ++ deviceId ++ [star]) ++ (field ++ star :: after) := by simp [whole]
  exact slice_of_parts whole (by simp [four, Nat.add_assoc]) (by simp [four, Nat.add_assoc])

/-- What comes after the fields, behind the asterisk at its place. -/
theorem whole_after : ∃ front, front.length = 4 + deviceId.length + 1 + field.length ∧
    buffer = front ++ star :: after := by
  obtain ⟨front, four, whole⟩ := divided.whole
  refine ⟨front ++ deviceId ++ star :: field, ?_, ?_⟩
  · simp only [List.length_append, List.length_cons, four]
    omega
  · simp [whole]

/-- The four octets after the fields. -/
theorem slice_length (four : 4 ≤ after.length) :
    slice buffer (4 + deviceId.length + 1 + field.length + 1)
      (4 + deviceId.length + 1 + field.length + 5) = .ok (after.take 4) := by
  obtain ⟨front, start, whole⟩ := divided.whole_after
  have whole : buffer = (front ++ [star]) ++ (after.take 4 ++ after.drop 4) := by simp [whole]
  exact slice_of_parts whole (by simp [start]) (by simp [start, four])

theorem isIndex?_eq : isIndex? buffer (4 + deviceId.length + 1 + field.length) = .ok
    (if Bytes.hasAtLeast 5 after then
      some (after[4]? = some star && (after.take 4).all Hex.isDigitByte)
      else if after.contains closing then some false else none) := by
  obtain ⟨front, start, whole⟩ := divided.whole_after
  have held := divided.held
  have length := divided.length_eq
  have digits := divided.slice_length
  generalize place : 4 + deviceId.length + 1 + field.length = fieldEnd at *
  rw [isIndex?, word_of_lt (by omega), ok_bind]
  by_cases five : 5 ≤ after.length
  · have four : 4 < after.length := five
    have fifth : buffer[fieldEnd + 5]? = some after[4] := by
      rw [whole, List.getElem?_append_right (by omega), start, Nat.add_sub_cancel_left,
        List.getElem?_cons_succ, List.getElem?_eq_getElem four]
    have nonempty : (after.take 4).isEmpty = false := by
      cases after with
      | nil => simp at four
      | cons b rest => rfl
    rw [if_pos (by omega : fieldEnd + 5 < buffer.length),
      if_pos ((Bytes.hasAtLeast_iff 5 after).2 five),
      List.getElem?_eq_getElem four, entry_of_getElem? fifth, ok_bind]
    by_cases starred : after[4] = star
    · rw [if_pos starred, word_of_lt (by omega), ok_bind, digits (Nat.le_of_lt four), ok_bind,
        areDigits, nonempty]
      simp [starred]
    · rw [if_neg starred]
      simp [starred]
  · have other : closing ≠ star := by decide
    have found := find_of_parts (x := closing) whole start.symm (by omega)
    rw [if_neg (by omega : ¬ fieldEnd + 5 < buffer.length),
      if_neg (fun long => five ((Bytes.hasAtLeast_iff 5 after).1 long)), found, ok_bind,
      Option.isSome_map, List.findIdx?_isSome]
    by_cases closes : closing ∈ after
    · simp [closes]
    · simp [closes, other.symm]

/-- No field is picked out outside of the buffer, and they make the header that is read field by
field. -/
theorem readLength_eq :
    readLength buffer manufacturer (4 + deviceId.length) (4 + deviceId.length + 1)
    (4 + deviceId.length + 1 + field.length) =
        .ok (scanLength manufacturer deviceId field after) := by
  have held := divided.held
  have length := divided.length_eq
  have areDigits_iff (part : Bytes) : (part.length ≠ 4 || !areDigits part) = !isLength part := by
    by_cases four : part.length = 4
    · have nonempty : part.isEmpty = false := by
        cases part with
        | nil => simp at four
        | cons b rest => rfl
      simp [isLength, areDigits, four, nonempty]
    · simp [isLength, four]
  have made (index : Option Bytes) (part : Bytes) {start : Nat}
      (place : start = 4 + deviceId.length + 1 + (index.map (·.length + 1)).getD 0 +
        part.length + 1) :
      Checked.ofFields buffer manufacturer (4 + deviceId.length) index part start =
        .ok (Header.ofFields manufacturer deviceId index part) := by
    rw [Checked.ofFields, areDigits_iff, divided.slice_deviceId, Header.ofFields, place]
    cases isLength part <;> rfl
  have unindexed : (do
      let length ← slice buffer (4 + deviceId.length + 1) (4 + deviceId.length + 1 + field.length)
      Checked.ofFields buffer manufacturer (4 + deviceId.length) none length
        (← word (4 + deviceId.length + 1 + field.length + 1))) =
      .ok (Header.ofFields manufacturer deviceId none field) := by
    rw [divided.slice_field, ok_bind, word_of_lt (by omega), ok_bind]
    exact made none field rfl
  rw [readLength, divided.isIndex?_eq, ok_bind, scanLength]
  by_cases five : Bytes.hasAtLeast 5 after = true
  · have long := (Bytes.hasAtLeast_iff 5 after).1 five
    rw [if_pos five, if_pos five]
    cases indexed : (after[4]? = some star && (after.take 4).all Hex.isDigitByte) with
    | false => exact unindexed
    | true =>
      have four : 4 ≤ after.length := Nat.le_of_lt long
      simp only [divided.slice_field, ok_bind, word_of_lt (by omega :
        4 + deviceId.length + 1 + field.length + 1 < 2 ^ 64), word_of_lt (by omega :
        4 + deviceId.length + 1 + field.length + 5 < 2 ^ 64), word_of_lt (by omega :
        4 + deviceId.length + 1 + field.length + 6 < 2 ^ 64), divided.slice_length four, if_true]
      apply made
      rw [Option.map_some, Option.getD_some, List.length_take, Nat.min_eq_left four]
      omega
  · rw [if_neg five, if_neg five]
    by_cases closes : after.contains closing = true
    · rw [if_pos closes, if_pos closes]
      exact unindexed
    · rw [if_neg closes, if_neg closes]
      rfl

end Divided

theorem readFields_eq {front : Bytes} (octets : Bytes) (four : front.length = 4)
    (held : (front ++ octets).length < 2 ^ 63) (manufacturer : Bytes) :
    readFields (front ++ octets) manufacturer = .ok (scanFields manufacturer octets) := by
  rw [readFields, find_of_parts rfl four.symm (by omega), ok_bind, scanFields]
  cases first : Bytes.cut? star octets with
  | none =>
    rw [findIdx?_of_notMem (Bytes.notMem_of_cut?_eq_none first)]
    rfl
  | some parts =>
    obtain ⟨deviceId, rest⟩ := parts
    obtain ⟨rfl, idEnds⟩ := Bytes.cut?_eq_some first
    rw [findIdx?_append_cons idEnds]
    dsimp only [Option.map_some]
    by_cases named : deviceId = []
    · subst named
      rfl
    · have positive : 0 < deviceId.length := List.length_pos_iff.2 named
      have start : 4 + deviceId.length + 1 = (front ++ deviceId ++ [star]).length := by
        simp [four, Nat.add_assoc]
      have whole : front ++ (deviceId ++ star :: rest) = front ++ deviceId ++ [star] ++ rest := by
        simp
      have inside : 4 + deviceId.length + 1 ≤ (front ++ deviceId ++ [star] ++ rest).length := by
        rw [start]
        exact (List.prefix_append _ rest).length_le
      rw [← whole] at inside
      rw [if_neg (by omega), word_of_lt (by omega), ok_bind, find_of_parts whole start (by omega),
        ok_bind, if_neg (by simpa using named)]
      cases second : Bytes.cut? star rest with
      | none =>
        rw [findIdx?_of_notMem (Bytes.notMem_of_cut?_eq_none second)]
        rfl
      | some parts =>
        obtain ⟨field, after⟩ := parts
        obtain ⟨rfl, fieldEnds⟩ := Bytes.cut?_eq_some second
        rw [findIdx?_append_cons fieldEnds]
        exact Divided.readLength_eq ⟨⟨front, four, rfl⟩, held⟩

/-- No place is outside of the buffer when its header is read. -/
theorem read_eq (held : buffer.length < 2 ^ 63) :
    Checked.read buffer = .ok (Header.read buffer) := by
  match buffer, held with
  | [], _ => rfl
  | [b], _ | [b, _], _ | [b, _, _], _ =>
    by_cases opens : b = opening
    · simp [Checked.read, Header.read, opens]
    · simp [Checked.read, Header.read, opens]
  | b :: first :: second :: c :: octets, held =>
    have long : ¬ (b :: first :: second :: c :: octets).length < 3 := by simp
    simp only [Checked.read, Header.read, List.getElem?_cons_zero, List.getElem?_cons_succ,
      if_neg long]
    by_cases opens : b = opening
    · by_cases starred : c = star
      · rw [if_neg (not_not_intro opens), if_neg (not_not_intro starred),
          if_neg (not_not_intro opens), if_neg (not_not_intro starred)]
        have four : [b, first, second, c].length = 4 := rfl
        exact readFields_eq octets four held [first, second]
      · rw [if_neg (not_not_intro opens), if_pos starred, if_neg (not_not_intro opens),
          if_pos starred]
        rfl
    · rw [if_pos opens, if_pos opens]
      rfl

/-- The same when a header is looked for. -/
theorem scan_eq (held : buffer.length < 2 ^ 63) :
    Checked.scan buffer = .ok (Header.scan buffer) := by
  rw [Checked.scan, read_eq held, ok_bind, Header.scan]
  cases Header.read buffer with
  | incomplete =>
    by_cases long : Header.patience ≤ buffer.length
    · simp [(Bytes.hasAtLeast_iff _ _).2 long, Nat.not_lt.2 long]
    · have short := mt (Bytes.hasAtLeast_iff _ _).1 long
      simp [short, Nat.not_le.1 long]
  | invalid => rfl
  | complete header => rfl

end Watch.Header.Checked
end TrackerGateway
