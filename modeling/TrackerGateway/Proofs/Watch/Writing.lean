import TrackerGateway.Proofs.Text.Fronts
import TrackerGateway.Proofs.Text.Utf8
import TrackerGateway.Proofs.Watch.Frames
import TrackerGateway.Proofs.Watch.Rescan

/-!
# Frames as the gateway writes them

The gateway writes a frame as text: nothing in it stands as a pair, and the length is written with
small digits. Up to the greatest length that four digits write, such a text is a frame with its
content as it is (`encode_frameText`). It is read with the fields it was written with, unless it
has no index and its content begins like a length (`reads_frameText`).
-/

namespace TrackerGateway

namespace Hex

/-- The octet that the digit of a number below sixteen is written with. -/
def octet (value : Nat) : UInt8 := UInt8.ofNat (digit value).toNat

theorem writes_octet {value : Nat} (below : value < 16) : Writes value (octet value) := by
  have all : ∀ v < 16, Writes v (octet v) := by decide
  exact all value below

theorem utf8EncodeChar_digit {value : Nat} (below : value < 16) :
    String.utf8EncodeChar (digit value) = [octet value] := by
  have all : ∀ v < 16, String.utf8EncodeChar (digit v) = [octet v] := by decide
  exact all value below

theorem digitChar_eq {value : Nat} (below : value < 16) : Nat.digitChar value = digit value := by
  have all : ∀ v < 16, Nat.digitChar v = digit v := by decide
  exact all value below

/-- The last digit comes off the end. -/
theorem padded_succ {width : Nat} (wide : 0 < width) (n : Nat) :
    padded (width + 1) n = padded width (n / 16) ++ [digit (n % 16)] := by
  by_cases one : n < 16
  · have room : width = width - 1 + 1 := by omega
    rw [padded, padded, Nat.toDigits_of_lt_base one, Nat.div_eq_of_lt one, Nat.toDigits_zero,
      Nat.mod_eq_of_lt one, digitChar_eq one, List.length_singleton, List.length_singleton,
      ← List.replicate_succ', ← room, Nat.add_sub_cancel]
  · rw [padded, padded, Nat.toDigits_of_base_le (by omega) (Nat.le_of_not_lt one),
      digitChar_eq (Nat.mod_lt n (by omega)), List.length_append, List.length_singleton,
      Nat.add_sub_add_right, List.append_assoc]

theorem padded_one {n : Nat} (small : n < 16) : padded 1 n = [digit n] := by
  rw [padded, Nat.toDigits_of_lt_base small, digitChar_eq small]
  rfl

end Hex

namespace Watch

theorem lt_of_mem_places {n : Nat} (small : n ≤ 65535) : ∀ value ∈ places n, value < 16 := by
  simp only [places, List.mem_cons, List.not_mem_nil, or_false]
  rintro value (rfl | rfl | rfl | rfl) <;> omega

/-- A number of sixteen bits is written with its four digits. -/
theorem padded_four {n : Nat} (small : n ≤ 65535) :
    Hex.padded 4 n = (places n).map Hex.digit := by
  have two : n / 16 / 16 = n / 256 := Nat.div_div_eq_div_mul n 16 16
  have three : n / 256 / 16 = n / 4096 := Nat.div_div_eq_div_mul n 256 16
  rw [Hex.padded_succ (by omega), Hex.padded_succ (by omega), Hex.padded_succ (by omega),
    two, three, Hex.padded_one (by omega)]
  rfl

theorem encode_padded_four {n : Nat} (small : n ≤ 65535) :
    Utf8.encode (String.ofList (Hex.padded 4 n)) = (places n).map Hex.octet := by
  rw [Utf8.encode, String.toList_ofList, padded_four small, List.flatMap_map, List.map_eq_flatMap]
  apply List.flatMap_congr
  intro value member
  exact Hex.utf8EncodeChar_digit (lt_of_mem_places small value member)

/-! ### Plain frames -/

namespace Frame.Fields

/-- What a frame says whose content stands in it as it is, below a length in small digits. -/
def plain (first second : UInt8) (deviceId : Bytes) (index : Option Bytes) (content : Bytes) :
    Fields where
  first := first
  second := second
  deviceId := deviceId
  index := index
  digits := (places content.length).map Hex.octet
  content := content
  body := content

theorem legible_plain {first second : UInt8} {deviceId content : Bytes} {index : Option Bytes}
    (named : deviceId ≠ []) (deviceEnds : star ∉ deviceId)
    (indexEnds : ∀ field ∈ index, star ∉ field) (small : content.length ≤ 65535) :
    (plain first second deviceId index content).Legible where
  deviceId_ne_nil := named
  star_notMem_deviceId := deviceEnds
  star_notMem_index := indexEnds
  content_le := small
  digits_write := by
    have below := lt_of_mem_places small
    simp only [plain]
    rw [List.forall₂_map_right_iff, List.forall₂_same]
    intro value member
    exact Hex.writes_octet (below value member)

/-- The header of a frame is read again off the frame with its content as it is, unless it has no
index and the content begins like a length. -/
theorem Legible.read_content {f : Fields} (legible : f.Legible)
    (told : f.index = none → Header.startsWithLength f.content = false) (rest : Bytes) :
    Header.read (f.head ++ (f.content ++ closing :: rest)) = .complete f.header := by
  rw [legible.read_head_append]
  cases index : f.index with
  | none =>
    have made := legible.ofFields_eq
    rw [index] at made
    simp only
    rw [Header.scanLength_closing, told index, if_neg Bool.false_ne_true, made]
  | some field => rfl

theorem Legible.scan_resolved {f : Fields} (legible : f.Legible)
    (told : f.index = none → Header.startsWithLength f.content = false) :
    Header.scan f.resolved = .complete f.header := by
  rw [Header.scan_eq_complete, resolved, List.append_assoc]
  exact legible.read_content told []

end Frame.Fields

/-! ### Texts of frames -/

theorem encode_frameText {manufacturer : String} (deviceId : String) (index : Option String)
    {content : String} {first second : UInt8} (two : Utf8.encode manufacturer = [first, second])
    (small : (Utf8.encode content).length ≤ 65535) :
    Utf8.encode (frameText manufacturer deviceId index content) =
      (Frame.Fields.plain first second (Utf8.encode deviceId) (index.map Utf8.encode)
        (Utf8.encode content)).resolved := by
  have digits := encode_padded_four small
  have opens : Utf8.encode "[" = [opening] := by decide +kernel
  have closes : Utf8.encode "]" = [closing] := by decide +kernel
  have ends : Utf8.encode "*" = [star] := by decide +kernel
  cases index with
  | none =>
    simp only [frameText, toString, ← Utf8.length_encode, Utf8.encode_append, two, digits, opens,
      closes, ends]
    simp [Frame.Fields.resolved, Frame.Fields.head, Frame.Fields.plain]
  | some index =>
    simp only [frameText, toString, ← Utf8.length_encode, Utf8.encode_append, two, digits, opens,
      closes, ends]
    simp [Frame.Fields.resolved, Frame.Fields.head, Frame.Fields.plain]

/-- Whether a frame is read with these fields and a length that is right, and has this content up
to the bracket that closes it. -/
def Reads (frame : Bytes) (manufacturer deviceId : String) (index : Option String)
    (content : Bytes) : Prop :=
  ∃ start, Header.scan frame = .complete ⟨manufacturer, deviceId, index, content.length, start⟩ ∧
    frame.drop start = content ++ [closing]

theorem Frame.Fields.Legible.reads_resolved {f : Fields} (legible : f.Legible)
    (told : f.index = none → Header.startsWithLength f.content = false) :
    Reads f.resolved (Utf8.decodeLossy [f.first, f.second]) (Utf8.decodeLossy f.deviceId)
      (f.index.map Utf8.decodeLossy) f.content := by
  refine ⟨f.head.length, legible.scan_resolved told, ?_⟩
  rw [resolved, List.append_assoc, List.drop_left]

/-- A frame that is written without index is only read as it was written if its content does not
begin like a length. -/
theorem reads_frameText {manufacturer deviceId content : String} {index : Option String}
    {first second : UInt8} (two : Utf8.encode manufacturer = [first, second])
    (named : Utf8.encode deviceId ≠ []) (deviceEnds : star ∉ Utf8.encode deviceId)
    (indexEnds : ∀ field ∈ index, star ∉ Utf8.encode field)
    (small : (Utf8.encode content).length ≤ 65535)
    (told : index = none → Header.startsWithLength (Utf8.encode content) = false) :
    Reads (Utf8.encode (frameText manufacturer deviceId index content)) manufacturer deviceId index
      (Utf8.encode content) := by
  have octetsEnd : ∀ field ∈ index.map Utf8.encode, star ∉ field := by
    intro field member
    obtain ⟨text, found, rfl⟩ := Option.map_eq_some_iff.1 member
    exact indexEnds text found
  have legible : (Frame.Fields.plain first second (Utf8.encode deviceId) (index.map Utf8.encode)
      (Utf8.encode content)).Legible := Frame.Fields.legible_plain named deviceEnds octetsEnd small
  have reads := legible.reads_resolved fun missing => told (Option.map_eq_none_iff.1 missing)
  have same : Utf8.decodeLossy ∘ Utf8.encode = id := funext Utf8.decodeLossy_encode
  rw [encode_frameText deviceId index two small]
  simpa only [Frame.Fields.plain, ← two, Utf8.decodeLossy_encode, Option.map_map, same,
    Option.map_id, id] using reads

/-! ### Fields that were read -/

/-- The octets of the fields before the length: the manufacturer, the identifier and the index. -/
def Header.fieldOctets (header : Header) (frame : Bytes) : List Bytes :=
  let named := frame.drop 4
  let deviceId := named.takeWhile (· != star)
  let index := (named.drop (deviceId.length + 1)).takeWhile (· != star)
  [(frame.drop 1).take 2, deviceId] ++ if header.index.isSome then [index] else []

theorem takeWhile_ne_star {field : Bytes} (ends : star ∉ field) (rest : Bytes) :
    (field ++ star :: rest).takeWhile (· != star) = field := by
  have within : ∀ octet ∈ field, (octet != star) = true := by
    intro octet member
    rw [bne_iff_ne]
    rintro rfl
    exact ends member
  exact Text.takeWhile_of_stops within (Text.stops_cons (by decide) rest)

/-- The octets that a header was read from. -/
structure Header.ReadFrom (header : Header) (frame : Bytes) (first second : UInt8)
    (deviceId : Bytes) (index : Option Bytes) : Prop where
  named : deviceId ≠ []
  deviceEnds : star ∉ deviceId
  indexEnds : ∀ field ∈ index, star ∉ field
  manufacturer_eq : header.manufacturer = Utf8.decodeLossy [first, second]
  deviceId_eq : header.deviceId = Utf8.decodeLossy deviceId
  index_eq : header.index = index.map Utf8.decodeLossy
  front : ∃ rest, frame = opening :: first :: second :: star :: (deviceId ++ star :: rest)
  length_eq : ∃ digits, Header.isLength digits = true ∧ header.length = Header.lengthOf digits
  start : 10 + deviceId.length ≤ header.contentStart
  fieldOctets_eq : header.fieldOctets frame = [[first, second], deviceId] ++ index.toList

/-- Octets that are a text are written again as they were read. -/
theorem Header.ReadFrom.encode_eq {header : Header} {frame : Bytes} {first second : UInt8}
    {deviceId : Bytes} {index : Option Bytes}
    (found : header.ReadFrom frame first second deviceId index)
    (manufacturer : Utf8.Valid [first, second]) (named : Utf8.Valid deviceId) :
    Utf8.encode header.manufacturer = [first, second] ∧ Utf8.encode header.deviceId = deviceId := by
  rw [found.manufacturer_eq, found.deviceId_eq]
  exact ⟨manufacturer.encode_decodeLossy, named.encode_decodeLossy⟩

theorem Header.exists_readFrom {header : Header} {frame : Bytes}
    (h : Header.scan frame = .complete header) :
    ∃ first second deviceId index, header.ReadFrom frame first second deviceId index := by
  obtain ⟨first, second, deviceId, field, after, rfl, named, deviceEnds, fieldEnds, scanned⟩ :=
    exists_fields_of_read (scan_eq_complete.1 h)
  have made : ∃ index digits, ofFields [first, second] deviceId index digits = .complete header ∧
      ∀ octets ∈ index, octets = field := by
    rcases scanLength_eq_complete scanned with ⟨-, -, made⟩ | made
    · refine ⟨some field, _, made, ?_⟩
      rintro octets ⟨⟩
      rfl
    · refine ⟨none, _, made, ?_⟩
      rintro octets ⟨⟩
  obtain ⟨index, digits, made, same⟩ := made
  obtain ⟨written, fields⟩ := ofFields_eq_complete.1 made
  have four : digits.length = 4 := by
    rw [isLength, Bool.and_eq_true, beq_iff_eq] at written
    exact written.1
  refine ⟨first, second, deviceId, index, named, deviceEnds, ?_, ?_, ?_, ?_, ⟨_, rfl⟩,
    ⟨digits, written, ?_⟩, ?_, ?_⟩
  · intro octets member
    rw [same octets member]
    exact fieldEnds
  · rw [fields]
  · rw [fields]
  · rw [fields]
  · rw [fields]
  · rw [fields, four]
    dsimp only
    omega
  · have past : (deviceId ++ star :: (field ++ star :: after)).drop (deviceId.length + 1) =
        field ++ star :: after := by
      simp [List.drop_append]
    simp only [fieldOctets, List.drop_succ_cons, List.drop_zero, takeWhile_ne_star deviceEnds, past,
      takeWhile_ne_star fieldEnds, fields, Option.isSome_map, List.take_succ_cons, List.take_zero]
    cases index with
    | none => rfl
    | some octets =>
      rw [same octets rfl]
      rfl

end Watch
end TrackerGateway
