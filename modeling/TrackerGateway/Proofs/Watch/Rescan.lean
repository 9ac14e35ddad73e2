import TrackerGateway.Proofs.Watch.Segmentation

/-!
# Headers that are read twice

The header of a frame is read off the stream, where the content is still escaped, to see where the
frame ends. It is read again off the frame that was cut out, whose content is resolved. Both
readings take the third field for an index if what comes next looks like a length, and only a
resolved content can begin with four digits and an asterisk (`Header.startsWithLength`). In such a
frame without index the second reading takes the length for the index and the front of the content
for the length (`scan_of_declared`).
-/

namespace TrackerGateway.Watch

/-- A frame at the front of a buffer that closes where its header declares. -/
structure Declared (buffer : Bytes) (header : Header) (place content rest : Bytes) : Prop where
  front : skipNoise buffer = .header header place
  taken : takeResolved [] header.length (place.drop header.contentStart) =
    some (content, closing :: rest)

/-- The frame that is cut out. -/
def cutOut (header : Header) (place content : Bytes) : Bytes :=
  place.take header.contentStart ++ content ++ [closing]

theorem cutOut_append {header : Header} {front : Bytes}
    (start : header.contentStart = front.length) (rest content : Bytes) :
    cutOut header (front ++ rest) content = front ++ content ++ [closing] := by
  rw [cutOut, start, List.take_left]

theorem step_of_declared {buffer place content rest : Bytes} {header : Header}
    (h : Declared buffer header place content rest) (limit : Nat) :
    step limit buffer = .unit (cutOut header place content) rest := by
  rw [step, h.front]
  simp only [cutFrame, h.taken, if_true]
  rfl

namespace Header

/-- The same header with its length for an index, and a length from the front of the content. -/
def shifted (header : Header) (place content : Bytes) : Header :=
  { header with
    index := some (Utf8.decodeLossy ((place.drop (header.contentStart - 5)).take 4))
    length := lengthOf (content.take 4)
    contentStart := header.contentStart + 5 }

/-- The header that is read off a frame which was cut out with a header. -/
def reread (header : Header) (place content : Bytes) : Header :=
  if header.index = none ∧ startsWithLength content then header.shifted place content else header

theorem reread_eq_iff (header : Header) (place content : Bytes) :
    header.reread place content = header ↔
      ¬ (header.index = none ∧ startsWithLength content = true) := by
  unfold reread
  split
  · rename_i disguised
    refine ⟨fun same => ?_, fun open_ => absurd disguised open_⟩
    have start : header.contentStart + 5 = header.contentStart := congrArg contentStart same
    omega
  · rename_i plain
    exact ⟨fun _ => plain, fun _ => rfl⟩

theorem ofFields_eq_complete {manufacturer deviceId length : Bytes} {index : Option Bytes}
    {header : Header} :
    ofFields manufacturer deviceId index length = .complete header ↔
      isLength length = true ∧ header =
        { manufacturer := Utf8.decodeLossy manufacturer
          deviceId := Utf8.decodeLossy deviceId
          index := index.map Utf8.decodeLossy
          length := lengthOf length
          contentStart :=
            4 + deviceId.length + 1 + (index.map (·.length + 1)).getD 0 + length.length + 1 } := by
  unfold ofFields
  split
  · rename_i written
    rw [Scan.complete.injEq]
    exact ⟨fun same => ⟨written, same.symm⟩, fun both => both.2.symm⟩
  · rename_i other
    refine ⟨fun same => ?_, fun both => absurd both.1 other⟩
    cases same

theorem isLength_take {octets : Bytes} (h : startsWithLength octets = true) :
    isLength (octets.take 4) = true := by
  rw [startsWithLength, Bool.and_eq_true, decide_eq_true_eq] at h
  obtain ⟨inside, -⟩ := List.getElem?_eq_some_iff.1 h.1
  rw [isLength, Bool.and_eq_true, beq_iff_eq, List.length_take]
  exact ⟨by omega, h.2⟩

/-- A length before content that begins like one is read as an index. -/
theorem ofFields_shifted {manufacturer deviceId field place content : Bytes} {header : Header}
    (made : ofFields manufacturer deviceId none field = .complete header)
    (spot : (place.drop (header.contentStart - 5)).take 4 = field)
    (disguised : startsWithLength content = true) :
    ofFields manufacturer deviceId (some field) (content.take 4) =
      .complete (header.shifted place content) := by
  obtain ⟨written, fields⟩ := ofFields_eq_complete.1 made
  have digits := isLength_take disguised
  refine ofFields_eq_complete.2 ⟨digits, ?_⟩
  rw [isLength, Bool.and_eq_true, beq_iff_eq] at digits
  have start : header.contentStart + 5 =
      4 + deviceId.length + 1 + (field.length + 1) + (content.take 4).length + 1 := by
    rw [fields, digits.1]
    simp only [Option.map_none, Option.getD_none]
    omega
  rw [shifted, spot, start, fields]
  rfl

/-- Off the frame that was cut out with it, a header is read as `reread`. -/
theorem read_cutOut {place : Bytes} {header : Header} (h : read place = .complete header)
    (content : Bytes) :
    read (cutOut header place content) = .complete (header.reread place content) := by
  obtain ⟨first, second, deviceId, field, after, rfl, named, deviceEnds, fieldEnds, scanned⟩ :=
    exists_fields_of_read h
  rcases scanLength_eq_complete scanned with ⟨rest, split, made⟩ | made
  · generalize after.take 4 = length at split made
    subst split
    obtain ⟨written, fields⟩ := ofFields_eq_complete.1 made
    have start : header.contentStart = (opening :: first :: second :: star ::
        (deviceId ++ star :: (field ++ star :: (length ++ [star])))).length := by
      rw [fields]
      simp
      omega
    have indexed : ¬ (header.index = none ∧ startsWithLength content = true) := by
      rw [fields]
      rintro ⟨⟨⟩, -⟩
    rw [(reread_eq_iff header _ content).2 indexed]
    have cut := cutOut_append start rest content
    simp only [List.cons_append, List.append_assoc, List.nil_append] at cut
    rw [cut, read_of_fields _ named deviceEnds fieldEnds, scanLength_of_length _ written, made]
  · obtain ⟨written, fields⟩ := ofFields_eq_complete.1 made
    have four : field.length = 4 := by
      rw [isLength, Bool.and_eq_true, beq_iff_eq] at written
      exact written.1
    have start : header.contentStart =
        (opening :: first :: second :: star :: (deviceId ++ star :: (field ++ [star]))).length := by
      rw [fields]
      simp
      omega
    have index : header.index = none := by
      rw [fields]
      rfl
    have cut := cutOut_append start after content
    simp only [List.cons_append, List.append_assoc, List.nil_append] at cut
    rw [cut, read_of_fields _ named deviceEnds fieldEnds, scanLength_closing, reread]
    by_cases disguised : startsWithLength content = true
    · rw [if_pos disguised, if_pos ⟨index, disguised⟩]
      apply ofFields_shifted made _ disguised
      have before : header.contentStart - 5 =
          (opening :: first :: second :: star :: (deviceId ++ [star])).length := by
        rw [start]
        simp [four]
      have whole : opening :: first :: second :: star ::
          (deviceId ++ star :: (field ++ star :: after)) =
          (opening :: first :: second :: star :: (deviceId ++ [star])) ++
              (field ++ star :: after) := by
        simp
      rw [before, whole, List.drop_left, ← four, List.take_left]
    · rw [if_neg disguised, if_neg (fun both => disguised both.2), made]

end Header

/-- What the peer reads off a frame that closes where its header declares, for whatever buffer the
frame was cut from: the header with which it was cut, unless that has no index and the content
begins with four digits and an asterisk. -/
theorem scan_of_declared {buffer place content rest : Bytes} {header : Header}
    (h : Declared buffer header place content rest) :
    (∀ limit, step limit buffer = .unit (cutOut header place content) rest) ∧
      Header.scan (cutOut header place content) = .complete (header.reread place content) ∧
      (header.reread place content = header ↔
        ¬ (header.index = none ∧ Header.startsWithLength content = true)) := by
  have placed := Header.scan_eq_complete.1 ((skipNoise_again buffer).1 h.front)
  refine ⟨step_of_declared h, ?_, header.reread_eq_iff place content⟩
  exact Header.scan_eq_complete.2 (Header.read_cutOut placed content)

/-- A frame with noise before it and more after it; its content has a pair in it. -/
theorem scan_of_pair :
    let place := "[3G*1*0003*a\x7d".toUTF8.toList ++ [3, 98, 93, 91]
    let header : Header := ⟨"3G", "1", none, 3, 11⟩
    Declared ("x".toUTF8.toList ++ place) header place "a]b".toUTF8.toList [91] ∧
      step defaultLimit ("x".toUTF8.toList ++ place) =
        .unit (cutOut header place "a]b".toUTF8.toList) [91] ∧
      Header.scan (cutOut header place "a]b".toUTF8.toList) = .complete header := by
  intro place header
  have declared : Declared ("x".toUTF8.toList ++ place) header place "a]b".toUTF8.toList [91] :=
    ⟨by decide +kernel, by decide +kernel⟩
  obtain ⟨cut, scanned, same⟩ := scan_of_declared declared
  refine ⟨declared, cut defaultLimit, ?_⟩
  rw [scanned, same.2 (by decide +kernel)]

/-- A frame whose content begins, in pairs, like a length. -/
def disguisedFrame : Bytes :=
  "[3G*1*0007*0002\x7d".toUTF8.toList ++ [5] ++ "LK]".toUTF8.toList

/-- In a frame without index the content can be taken for the rest of the header. -/
theorem not_scan_eq_of_declared :
    ¬ ∀ (buffer place content rest : Bytes) (header : Header),
      Declared buffer header place content rest →
        Header.scan (cutOut header place content) = .complete header := by
  intro claim
  have declared : Declared disguisedFrame ⟨"3G", "1", none, 7, 11⟩ disguisedFrame
      "0002*LK".toUTF8.toList [] := ⟨by decide +kernel, by decide +kernel⟩
  have scanned : Header.scan (cutOut ⟨"3G", "1", none, 7, 11⟩ disguisedFrame
      "0002*LK".toUTF8.toList) = .complete ⟨"3G", "1", some "0007", 2, 16⟩ := by
    decide +kernel
  rw [claim _ _ _ _ _ declared] at scanned
  cases scanned

end TrackerGateway.Watch
