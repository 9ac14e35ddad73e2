import TrackerGateway.Watch.Header

/-!
# Headers and what comes after them

Once the octets at hand tell what stands at the front of a buffer, octets that arrive later do not
change it (`read_append`). Only `patience` can be wrong about what is to come: it gives up octets
that do not make a header yet.
-/

namespace TrackerGateway.Watch.Header

/-- A closing bracket among the next four octets shows that they are not a length. -/
theorem not_digits_of_closing {octets : Bytes} (h : closing ∈ octets) :
    octets.all Hex.isDigitByte = false := by
  rw [List.all_eq_false]
  exact ⟨closing, h, by decide⟩

theorem scanLength_append {manufacturer deviceId field after : Bytes} (more : Bytes)
    (h : scanLength manufacturer deviceId field after ≠ .incomplete) :
    scanLength manufacturer deviceId field (after ++ more) =
      scanLength manufacturer deviceId field after := by
  by_cases five : Bytes.hasAtLeast 5 after = true
  · have long := (Bytes.hasAtLeast_iff 5 after).1 five
    have fifth : (after ++ more)[4]? = after[4]? := List.getElem?_append_left (by omega)
    have digits : (after ++ more).take 4 = after.take 4 := List.take_append_of_le_length (by omega)
    simp only [scanLength, five, Bytes.hasAtLeast_append more five, if_true, fifth, digits]
  · have short : after.length < 5 := by
      rw [Bytes.hasAtLeast_iff] at five
      omega
    by_cases closes : closing ∈ after
    · have inside : closing ∈ (after ++ more).take 4 := by
        rw [List.take_append, List.take_of_length_le (by omega : after.length ≤ 4)]
        exact List.mem_append_left _ closes
      have noIndex := not_digits_of_closing inside
      simp [scanLength, five, closes, noIndex]
    · simp [scanLength, five, closes] at h

theorem scanFields_append {manufacturer octets : Bytes} (more : Bytes)
    (h : scanFields manufacturer octets ≠ .incomplete) :
    scanFields manufacturer (octets ++ more) = scanFields manufacturer octets := by
  unfold scanFields at h ⊢
  cases first : Bytes.cut? star octets with
  | none => simp [first] at h
  | some pair =>
    obtain ⟨deviceId, rest⟩ := pair
    rw [Bytes.cut?_append more first]
    simp only [first] at h ⊢
    by_cases empty : deviceId.isEmpty = true
    · rw [if_pos empty, if_pos empty]
    · rw [if_neg empty] at h ⊢
      rw [if_neg empty]
      cases second : Bytes.cut? star rest with
      | none => simp [second] at h
      | some pair =>
        obtain ⟨field, after⟩ := pair
        rw [Bytes.cut?_append more second]
        simp only [second] at h ⊢
        exact scanLength_append more h

/-- What has been told apart from a header in the making stays what it is. -/
theorem read_append {buffer : Bytes} (more : Bytes) (h : read buffer ≠ .incomplete) :
    read (buffer ++ more) = read buffer := by
  match buffer with
  | [] => exact absurd rfl h
  | b :: rest =>
    simp only [read, List.cons_append] at h ⊢
    by_cases opens : b ≠ opening
    · rw [if_pos opens, if_pos opens]
    · rw [if_neg opens] at h ⊢
      rw [if_neg opens]
      match rest with
      | [] | [_] | [_, _] => exact absurd rfl h
      | first :: second :: c :: rest =>
        simp only [List.cons_append] at h ⊢
        by_cases starred : c ≠ star
        · rw [if_pos starred, if_pos starred]
        · rw [if_neg starred] at h ⊢
          rw [if_neg starred]
          exact scanFields_append more h

/-- A header in the making was one when there was less of it. -/
theorem read_incomplete_of_append {buffer more : Bytes} (h : read (buffer ++ more) = .incomplete) :
    read buffer = .incomplete := by
  by_cases known : read buffer = .incomplete
  · exact known
  · exact absurd (read_append more known ▸ h) known

theorem read_take_of_incomplete {buffer : Bytes} (count : Nat) (h : read buffer = .incomplete) :
    read (buffer.take count) = .incomplete := by
  have whole : read (buffer.take count ++ buffer.drop count) = .incomplete := by
    rwa [List.take_append_drop]
  exact read_incomplete_of_append whole

/-! ### The place of the content -/

theorem contentStart_of_ofFields {manufacturer deviceId length : Bytes} {index : Option Bytes}
    {header : Header} (h : ofFields manufacturer deviceId index length = .complete header) :
    header.contentStart =
      4 + deviceId.length + 1 + (index.map (·.length + 1)).getD 0 + length.length + 1 := by
  unfold ofFields at h
  split at h
  · cases h
    rfl
  · cases h

theorem contentStart_of_scanLength {manufacturer deviceId field after : Bytes} {header : Header}
    (h : scanLength manufacturer deviceId field after = .complete header) :
    header.contentStart ≤ 4 + deviceId.length + 1 + field.length + 1 + after.length := by
  unfold scanLength at h
  split at h
  · rename_i five
    have long := (Bytes.hasAtLeast_iff 5 after).1 five
    split at h
    · have start := contentStart_of_ofFields h
      simp only [Option.map_some, Option.getD_some, List.length_take] at start
      omega
    · have start := contentStart_of_ofFields h
      simp only [Option.map_none, Option.getD_none] at start
      omega
  · split at h
    · have start := contentStart_of_ofFields h
      simp only [Option.map_none, Option.getD_none] at start
      omega
    · cases h

theorem contentStart_of_scanFields {manufacturer octets : Bytes} {header : Header}
    (h : scanFields manufacturer octets = .complete header) :
    header.contentStart ≤ 4 + octets.length := by
  unfold scanFields at h
  cases first : Bytes.cut? star octets with
  | none => simp [first] at h
  | some pair =>
    obtain ⟨deviceId, rest⟩ := pair
    simp only [first] at h
    split at h
    · cases h
    · cases second : Bytes.cut? star rest with
      | none => simp [second] at h
      | some pair =>
        obtain ⟨field, after⟩ := pair
        simp only [second] at h
        have start := contentStart_of_scanLength h
        have whole := congrArg List.length (Bytes.cut?_eq_some first).1
        have tail := congrArg List.length (Bytes.cut?_eq_some second).1
        simp only [List.length_append, List.length_cons] at whole tail
        omega

/-- The content of a frame starts no later than where the buffer ends. -/
theorem contentStart_le_length {buffer : Bytes} {header : Header}
    (h : read buffer = .complete header) : header.contentStart ≤ buffer.length := by
  unfold read at h
  split at h
  · cases h
  · split at h
    · cases h
    · split at h
      · split at h
        · cases h
        · have start := contentStart_of_scanFields h
          simp only [List.length_cons]
          omega
      · cases h

/-! ### The fields of a header -/

theorem read_of_fields {first second : UInt8} {deviceId field : Bytes} (after : Bytes)
    (named : deviceId ≠ []) (deviceEnds : star ∉ deviceId) (fieldEnds : star ∉ field) :
    read (opening :: first :: second :: star :: (deviceId ++ star :: (field ++ star :: after))) =
      scanLength [first, second] deviceId field after := by
  have named : deviceId.isEmpty = false := by simpa using named
  simp only [read, scanFields, ne_eq, not_true, if_false, Bytes.cut?_of_notMem _ deviceEnds, named,
    Bool.false_eq_true, Bytes.cut?_of_notMem _ fieldEnds]

theorem exists_fields_of_read {buffer : Bytes} {header : Header}
    (h : read buffer = .complete header) :
    ∃ first second deviceId field after, buffer = opening :: first :: second :: star ::
        (deviceId ++ star :: (field ++ star :: after)) ∧
        deviceId ≠ [] ∧ star ∉ deviceId ∧ star ∉ field ∧
          scanLength [first, second] deviceId field after = .complete header := by
  unfold read at h
  split at h
  · cases h
  · rename_i b rest
    by_cases opens : b = opening
    · subst opens
      rw [if_neg (not_not_intro rfl)] at h
      split at h
      · rename_i first second c rest
        by_cases starred : c = star
        · subst starred
          rw [if_neg (not_not_intro rfl), scanFields] at h
          split at h
          · cases h
          · rename_i deviceId rest cut
            obtain ⟨rfl, deviceEnds⟩ := Bytes.cut?_eq_some cut
            split at h
            · cases h
            · rename_i named
              split at h
              · cases h
              · rename_i field after cut
                obtain ⟨rfl, fieldEnds⟩ := Bytes.cut?_eq_some cut
                refine ⟨first, second, deviceId, field, after, rfl, ?_, deviceEnds, fieldEnds, h⟩
                rintro rfl
                exact named rfl
        · rw [if_pos starred] at h
          cases h
      · cases h
    · rw [if_pos opens] at h
      cases h

/-- Whether octets begin like the length of a header. -/
def startsWithLength (octets : Bytes) : Bool :=
  octets[4]? = some star && (octets.take 4).all Hex.isDigitByte

/-- A length and its asterisk make the field before them an index. -/
theorem scanLength_of_length {manufacturer deviceId field length : Bytes} (after : Bytes)
    (isLength : isLength length = true) :
    scanLength manufacturer deviceId field (length ++ star :: after) =
      ofFields manufacturer deviceId (some field) length := by
  simp only [Header.isLength, Bool.and_eq_true, beq_iff_eq] at isLength
  obtain ⟨four, digits⟩ := isLength
  have five : 5 ≤ (length ++ star :: after).length := by
    simp only [List.length_append, List.length_cons]
    omega
  have fifth : (length ++ star :: after)[4]? = some star := by
    rw [List.getElem?_append_right (by omega), four]
    rfl
  have front : (length ++ star :: after).take 4 = length := by
    rw [← four, List.take_left]
  simp only [scanLength, (Bytes.hasAtLeast_iff 5 _).2 five, fifth, front, digits, decide_true,
    Bool.and_self, if_true]

/-- Where a bracket is yet to come, the third field is an index or not by the five octets after
it. -/
theorem scanLength_closing (manufacturer deviceId field content rest : Bytes) :
    scanLength manufacturer deviceId field (content ++ closing :: rest) =
      if startsWithLength content then ofFields manufacturer deviceId (some field) (content.take 4)
      else ofFields manufacturer deviceId none field := by
  by_cases long : 4 < content.length
  · have five : Bytes.hasAtLeast 5 (content ++ closing :: rest) = true := by
      rw [Bytes.hasAtLeast_iff, List.length_append]
      omega
    have fifth : (content ++ closing :: rest)[4]? = content[4]? := List.getElem?_append_left long
    have digits : (content ++ closing :: rest).take 4 = content.take 4 :=
      List.take_append_of_le_length (by omega)
    rw [scanLength, if_pos five, fifth, digits]
    rfl
  · have noLength : startsWithLength content = false := by
      rw [startsWithLength, List.getElem?_eq_none (by omega)]
      rfl
    rw [noLength, if_neg Bool.false_ne_true, scanLength]
    split
    · rw [if_neg]
      rw [Bool.and_eq_true, decide_eq_true_eq]
      rintro ⟨fifth, digits⟩
      by_cases four : content.length = 4
      · rw [List.getElem?_append_right (by omega), four] at fifth
        cases fifth
      · -- The bracket is one of the four octets that would have to be digits.
        have inside : closing ∈ (content ++ closing :: rest).take 4 := by
          rw [List.take_append]
          apply List.mem_append_right
          have room : 4 - content.length = (3 - content.length) + 1 := by omega
          rw [room, List.take_succ_cons]
          exact List.mem_cons_self
        rw [not_digits_of_closing inside] at digits
        cases digits
    · rw [if_pos (by simp)]

/-- A header has an index, and its length comes next, or its third field is the length. -/
theorem scanLength_eq_complete {manufacturer deviceId field after : Bytes} {header : Header}
    (h : scanLength manufacturer deviceId field after = .complete header) :
    (∃ rest, after = after.take 4 ++ star :: rest ∧
        ofFields manufacturer deviceId (some field) (after.take 4) = .complete header) ∨
      ofFields manufacturer deviceId none field = .complete header := by
  unfold scanLength at h
  split at h
  · split at h
    · rename_i five length
      rw [Bool.and_eq_true, decide_eq_true_eq] at length
      obtain ⟨inside, starred⟩ := List.getElem?_eq_some_iff.1 length.1
      refine .inl ⟨after.drop 5, ?_, h⟩
      rw [← starred, ← List.drop_eq_getElem_cons inside, List.take_append_drop]
    · exact .inr h
  · split at h
    · exact .inr h
    · cases h

/-! ### Looking at a buffer -/

theorem scan_eq_complete {buffer : Bytes} {header : Header} :
    scan buffer = .complete header ↔ read buffer = .complete header := by
  unfold scan
  split
  · rename_i undecided
    rw [undecided]
    split <;> simp
  · rfl

theorem scan_of_read_invalid {buffer : Bytes} (h : read buffer = .invalid) :
    scan buffer = .invalid := by
  simp [scan, h]

theorem scan_append_of_complete {buffer : Bytes} {header : Header} (more : Bytes)
    (h : scan buffer = .complete header) : scan (buffer ++ more) = .complete header := by
  rw [scan_eq_complete] at h ⊢
  rw [read_append more (by simp [h]), h]

/-- What was given up stays given up, unless a header comes of it that takes more octets than
`patience`. -/
theorem scan_append_of_invalid {buffer : Bytes} (more : Bytes)
    (prompt : ∀ header, scan (buffer ++ more) = .complete header →
      read ((buffer ++ more).take patience) ≠ .incomplete)
    (h : scan buffer = .invalid) : scan (buffer ++ more) = .invalid := by
  cases known : read buffer with
  | invalid =>
    apply scan_of_read_invalid
    rw [read_append more (by simp [known]), known]
  | complete header =>
    rw [scan_eq_complete.2 known] at h
    cases h
  | incomplete =>
    have long : Bytes.hasAtLeast patience buffer = true := by
      by_cases enough : Bytes.hasAtLeast patience buffer = true
      · exact enough
      · simp [scan, known, enough] at h
    -- It was given up for its length, and only a header that takes more than that would be missed.
    cases later : read (buffer ++ more) with
    | invalid => exact scan_of_read_invalid later
    | incomplete => simp [scan, later, Bytes.hasAtLeast_append more long]
    | complete header =>
      have early : (buffer ++ more).take patience = buffer.take patience :=
        List.take_append_of_le_length ((Bytes.hasAtLeast_iff patience buffer).1 long)
      have decided := prompt header (scan_eq_complete.2 later)
      rw [early] at decided
      exact absurd (read_take_of_incomplete patience known) decided

end TrackerGateway.Watch.Header
