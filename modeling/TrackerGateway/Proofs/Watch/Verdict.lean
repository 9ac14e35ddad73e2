import TrackerGateway.Proofs.Bytes.Digits
import TrackerGateway.Proofs.Watch.Frames

/-!
# What a look at a buffer says of it

A header that was found is spelled by the octets before the content, field by field
(`Header.Spelled`), and octets that arrive later do not change it. What is no header never becomes
one either, as long as it was not given up for its length alone (`verdict_of_scan`). Whether the
third field is an index is told in two ways, by the five octets after it or by a bracket among
fewer: the bracket is no digit, so the second way forestalls what the first would say.
-/

namespace TrackerGateway

namespace Hex

/-- The octets that count as digits are those that write one. -/
theorem exists_writes_of_isDigitByte {octet : UInt8} (digit : isDigitByte octet = true) :
    ∃ value < 16, Writes value octet := by
  have all : ∀ n < 256, isDigitByte (UInt8.ofNat n) = true → ∃ value < 16,
      Writes value (UInt8.ofNat n) := by
    decide +kernel
  have found := all octet.toNat octet.toNat_lt
  rw [UInt8.ofNat_toNat] at found
  exact found digit

/-- What a list of octets writes, digit by digit. -/
theorem exists_forall₂_writes {field : Bytes} (digits : field.all isDigitByte = true) :
    ∃ values : List Nat, (∀ value ∈ values, value < 16) ∧ List.Forall₂ Writes values field := by
  induction field with
  | nil => exact ⟨[], by simp, .nil⟩
  | cons octet rest ih =>
    rw [List.all_cons, Bool.and_eq_true] at digits
    obtain ⟨value, small, writes⟩ := exists_writes_of_isDigitByte digits.1
    obtain ⟨values, others, written⟩ := ih digits.2
    exact ⟨value :: values, List.forall_mem_cons.2 ⟨small, others⟩, .cons writes written⟩

end Hex

namespace Watch.Header

/-- The length that digits write is their number to the base sixteen, the first digit the
highest. -/
theorem lengthOf_of_writes {values : List Nat} {field : Bytes}
    (small : ∀ value ∈ values, value < 16) (written : List.Forall₂ Hex.Writes values field) :
    lengthOf field = Nat.ofDigits 16 values.reverse := by
  have read : field.map (fun b : UInt8 => (Hex.value? (Char.ofNat b.toNat)).getD 0) = values := by
    induction written with
    | nil => rfl
    | cons writes _ ih =>
      obtain ⟨below, others⟩ := List.forall_mem_cons.1 small
      rw [List.map_cons, Hex.value?_of_writes writes below, ih others]
      rfl
  rw [lengthOf, foldl_digits 16 fun b : UInt8 => (Hex.value? (Char.ofNat b.toNat)).getD 0,
    List.map_reverse, read]

/-- The octets of a header as they stand in a buffer, with the numbers that the digits of its
length write. -/
structure Spelling where
  first : UInt8
  second : UInt8
  deviceId : Bytes
  index : Option Bytes
  digits : Bytes
  values : List Nat
  deviceId_ne_nil : deviceId ≠ []
  star_notMem_deviceId : star ∉ deviceId
  star_notMem_index : ∀ field ∈ index, star ∉ field
  length_digits : digits.length = 4
  values_lt : ∀ value ∈ values, value < 16
  digits_write : List.Forall₂ Hex.Writes values digits

namespace Spelling

/-- A bracket and the fields, with an asterisk behind each. -/
def octets (s : Spelling) : Bytes :=
  [opening, s.first, s.second, star] ++ s.deviceId ++ [star] ++
    (s.index.map (· ++ [star])).getD [] ++ s.digits ++ [star]

/-- What the fields say. -/
def header (s : Spelling) : Header where
  manufacturer := Utf8.decodeLossy [s.first, s.second]
  deviceId := Utf8.decodeLossy s.deviceId
  index := s.index.map Utf8.decodeLossy
  length := Nat.ofDigits 16 s.values.reverse
  contentStart := s.octets.length

theorem length_octets (s : Spelling) : s.octets.length =
    4 + s.deviceId.length + 1 + (s.index.map (·.length + 1)).getD 0 + s.digits.length + 1 := by
  cases index : s.index with
  | none =>
    simp [octets, index]
    omega
  | some field =>
    simp [octets, index]
    omega

end Spelling

variable {first second : UInt8} {deviceId digits : Bytes} {index : Option Bytes} {header : Header}

/-- What is made of fields is spelled by them. -/
theorem exists_spelling_of_ofFields (named : deviceId ≠ []) (deviceEnds : star ∉ deviceId)
    (indexEnds : ∀ field ∈ index, star ∉ field)
    (made : ofFields [first, second] deviceId index digits = .complete header) :
    ∃ s : Spelling, header = s.header ∧
      s.octets = [opening, first, second, star] ++ deviceId ++ [star] ++
        (index.map (· ++ [star])).getD [] ++ digits ++ [star] := by
  rw [ofFields] at made
  split at made
  · rename_i isLength
    rw [Header.isLength, Bool.and_eq_true, beq_iff_eq] at isLength
    obtain ⟨values, small, written⟩ := Hex.exists_forall₂_writes isLength.2
    let s : Spelling :=
      ⟨first, second, deviceId, index, digits, values, named, deviceEnds, indexEnds, isLength.1,
        small, written⟩
    have start := s.length_octets
    cases made
    refine ⟨s, ?_, rfl⟩
    rw [lengthOf_of_writes small written, ← start]
    rfl
  · cases made

/-- A header that is read is spelled by the front of the buffer. -/
theorem exists_spelling_of_read {buffer : Bytes} (found : read buffer = .complete header) :
    ∃ (s : Spelling) (rest : Bytes), header = s.header ∧ buffer = s.octets ++ rest := by
  obtain ⟨first, second, deviceId, field, after, rfl, named, deviceEnds, fieldEnds, told⟩ :=
    exists_fields_of_read found
  rcases scanLength_eq_complete told with ⟨rest, shape, made⟩ | made
  · generalize after.take 4 = digits at shape made
    have indexEnds : ∀ f ∈ some field, star ∉ f := by
      rintro f ⟨⟩
      exact fieldEnds
    obtain ⟨s, same, octets⟩ := exists_spelling_of_ofFields named deviceEnds indexEnds made
    refine ⟨s, rest, same, ?_⟩
    rw [octets, shape]
    simp
  · obtain ⟨s, same, octets⟩ := exists_spelling_of_ofFields named deviceEnds (by simp) made
    refine ⟨s, after, same, ?_⟩
    rw [octets]
    simp

/-- A complete header is spelled by the octets before its content, whatever comes later. What is
no header stays none if so few octets told it that `patience` had no part in it. -/
theorem verdict_of_scan (buffer : Bytes) :
    (∀ header, scan buffer = .complete header →
      (∃ s : Spelling, header = s.header ∧ buffer.take header.contentStart = s.octets) ∧
        ∀ more, scan (buffer ++ more) = .complete header) ∧
      (scan buffer = .invalid → buffer.length < 64 → ∀ more, scan (buffer ++ more) = .invalid) := by
  refine ⟨fun header found => ⟨?_, fun more => scan_append_of_complete more found⟩,
    fun refused short more => ?_⟩
  · obtain ⟨s, rest, rfl, rfl⟩ := exists_spelling_of_read (scan_eq_complete.1 found)
    exact ⟨s, rfl, List.take_left⟩
  · have few : ¬ Bytes.hasAtLeast patience buffer = true := by
      rw [Bytes.hasAtLeast_iff, patience]
      omega
    have decided : read buffer = .invalid := by
      cases known : read buffer with
      | invalid => rfl
      | incomplete => simp [scan, known, few] at refused
      | complete header => simp [scan, known] at refused
    apply scan_of_read_invalid
    rw [read_append more (by simp [decided]), decided]

/-- A header with an index, and what is no header as its third field is neither an index nor a
length. -/
theorem verdict_of_samples :
    let buffer := Utf8.encode "[3G*8610*00AB*000d*LK,50"
    let header : Header := ⟨"3G", "8610", some "00AB", 13, 19⟩
    let noise := Utf8.encode "[3G*8610*zz*LK,50]"
    scan buffer = .complete header ∧
      ((∃ s : Spelling, header = s.header ∧ buffer.take header.contentStart = s.octets) ∧
        ∀ more, scan (buffer ++ more) = .complete header) ∧
      scan noise = .invalid ∧ noise.length < 64 ∧ ∀ more, scan (noise ++ more) = .invalid := by
  intro buffer header noise
  have found : scan buffer = .complete header := by decide +kernel
  have refused : scan noise = .invalid := by decide +kernel
  have short : noise.length < 64 := by decide +kernel
  exact ⟨found, (verdict_of_scan buffer).1 header found, refused, short,
    (verdict_of_scan noise).2 refused short⟩

end Watch.Header
end TrackerGateway
