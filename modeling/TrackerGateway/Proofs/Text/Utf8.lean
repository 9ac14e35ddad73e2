import TrackerGateway.Text.Utf8

/-!
# Text and its octets

The machine that decodes takes the octets of a character back to that character, whatever it has
found before (`foldl_step_character`), so a text is read back from its octets
(`decodeLossy_encode`). The other way round this holds of the octets that some text has
(`Valid.encode_decodeLossy`).
-/

namespace TrackerGateway.Utf8

/-! ### The first octet of a character -/

/-- What an octet begins does not depend on what was found before it. -/
theorem begin_eq (found : List (Option Char)) (b : UInt8) :
    begin found b = ((begin [] b).1 ++ found, (begin [] b).2) := by
  unfold begin
  grind

theorem begin_two (found : List (Option Char)) {n : Nat} (least : 2 ≤ n) (small : n < 0x20) :
    begin found (UInt8.ofNat (n + 0xC0)) = (found, some ⟨1, 0x80, 0xBF, n⟩) := by
  have all : ∀ n < 0x20, 2 ≤ n →
      begin [] (UInt8.ofNat (n + 0xC0)) = ([], some ⟨1, 0x80, 0xBF, n⟩) := by
    decide
  rw [begin_eq, all n small least]
  rfl

/-- The octet after the first of three keeps the code point from being too small and from being
half of a pair. -/
theorem begin_three (found : List (Option Char)) {n : Nat} (small : n < 0x10) :
    begin found (UInt8.ofNat (n + 0xE0)) =
      (found, some ⟨2, if n = 0 then 0xA0 else 0x80, if n = 13 then 0x9F else 0xBF, n⟩) := by
  have all : ∀ n < 0x10, begin [] (UInt8.ofNat (n + 0xE0)) =
      ([], some ⟨2, if n = 0 then 0xA0 else 0x80, if n = 13 then 0x9F else 0xBF, n⟩) := by
    decide
  rw [begin_eq, all n small]
  rfl

/-- The octet after the first of four keeps the code point from being too small and from being too
great. -/
theorem begin_four (found : List (Option Char)) {n : Nat} (small : n < 5) :
    begin found (UInt8.ofNat (n + 0xF0)) =
      (found, some ⟨3, if n = 0 then 0x90 else 0x80, if n = 4 then 0x8F else 0xBF, n⟩) := by
  have all : ∀ n < 5, begin [] (UInt8.ofNat (n + 0xF0)) =
      ([], some ⟨3, if n = 0 then 0x90 else 0x80, if n = 4 then 0x8F else 0xBF, n⟩) := by
    decide
  rw [begin_eq, all n small]
  rfl

/-! ### The octets after it -/

theorem step_within (found : List (Option Char)) {missing value n : Nat} {least greatest : UInt8}
    (small : n < 0x40) (lower : least.toNat ≤ n + 0x80) (upper : n + 0x80 ≤ greatest.toNat) :
    step (found, some ⟨missing, least, greatest, value⟩) (UInt8.ofNat (n + 0x80)) =
      if missing ≤ 1 then (some (Char.ofNat (64 * value + n)) :: found, none)
      else (found, some ⟨missing - 1, 0x80, 0xBF, 64 * value + n⟩) := by
  have written : (UInt8.ofNat (n + 0x80)).toNat = n + 0x80 := by
    rw [UInt8.toNat_ofNat']
    omega
  have within : least ≤ UInt8.ofNat (n + 0x80) ∧ UInt8.ofNat (n + 0x80) ≤ greatest := by
    rw [UInt8.le_iff_toNat_le, UInt8.le_iff_toNat_le, written]
    exact ⟨lower, upper⟩
  simp only [step, if_pos within, written, Nat.add_sub_cancel]

/-- An octet where no bound is left but that it goes on with the character. -/
theorem step_further (found : List (Option Char)) {missing value n : Nat} (small : n < 0x40) :
    step (found, some ⟨missing, 0x80, 0xBF, value⟩) (UInt8.ofNat (n + 0x80)) =
      if missing ≤ 1 then (some (Char.ofNat (64 * value + n)) :: found, none)
      else (found, some ⟨missing - 1, 0x80, 0xBF, 64 * value + n⟩) := by
  apply step_within found small
  · exact Nat.le_add_left _ _
  · show n + 0x80 ≤ 0xBF
    omega

/-! ### Texts -/

theorem foldl_step_character (found : List (Option Char)) (c : Char) :
    (String.utf8EncodeChar c).foldl step (found, none) = (some c :: found, none) := by
  have code : c.val.toNat = c.toNat := rfl
  have same : Char.ofNat c.toNat = c := Char.ofNat_toNat c
  have valid : c.toNat < 0xD800 ∨ 0xDFFF < c.toNat ∧ c.toNat < 0x110000 := c.valid
  simp only [String.utf8EncodeChar, code]
  generalize c.toNat = v at same valid
  by_cases one : v ≤ 0x7F
  · have written : (UInt8.ofNat v).toNat = v := by
      rw [UInt8.toNat_ofNat']
      omega
    have ascii : UInt8.ofNat v < 0x80 := by
      rw [UInt8.lt_iff_toNat_lt, written]
      exact Nat.lt_succ_of_le one
    rw [if_pos one, List.foldl_cons, List.foldl_nil, step_ascii ascii, written, same]
  · rw [if_neg one]
    by_cases two : v ≤ 0x7FF
    · have whole : 64 * (v / 64 % 0x20) + v % 0x40 = v := by omega
      rw [if_pos two, List.foldl_cons, List.foldl_cons, List.foldl_nil, step,
        begin_two found (by omega) (by omega), step_further found (by omega), whole, same]
      rfl
    · rw [if_neg two]
      by_cases three : v ≤ 0xFFFF
      · have whole : 64 * (64 * (v / 4096 % 0x10) + v / 64 % 0x40) + v % 0x40 = v := by omega
        rw [if_pos three]
        simp only [List.foldl_cons, List.foldl_nil]
        rw [step, begin_three found (by omega), step_within found (by omega) _ _, if_neg (by omega),
          step_further found (by omega), whole, same]
        · rfl
        · split
          · show 0xA0 ≤ _
            omega
          · show 0x80 ≤ _
            omega
        · split
          · show _ ≤ 0x9F
            omega
          · show _ ≤ 0xBF
            omega
      · have whole : 64 * (64 * (64 * (v / 262144 % 0x08) + v / 4096 % 0x40) + v / 64 % 0x40) +
            v % 0x40 = v := by
          omega
        rw [if_neg three]
        simp only [List.foldl_cons, List.foldl_nil]
        rw [step, begin_four found (by omega), step_within found (by omega) _ _, if_neg (by omega),
          step_further found (by omega), if_neg (by omega), step_further found (by omega),
          whole, same]
        · rfl
        · split
          · show 0x90 ≤ _
            omega
          · show 0x80 ≤ _
            omega
        · split
          · show _ ≤ 0x8F
            omega
          · show _ ≤ 0xBF
            omega

theorem encode_append (text more : String) :
    encode (text ++ more) = encode text ++ encode more := by
  rw [encode, String.toList_append, List.flatMap_append]
  rfl

theorem foldl_step_encode (found : List (Option Char)) (text : List Char) :
    (text.flatMap String.utf8EncodeChar).foldl step (found, none) =
      ((text.map some).reverse ++ found, none) := by
  induction text generalizing found with
  | nil => rfl
  | cons c text ih =>
    rw [List.flatMap_cons, List.foldl_append, foldl_step_character, ih]
    simp

/-- A text is read back from its octets. -/
theorem decodeLossy_encode (text : String) : decodeLossy (encode text) = text := by
  rw [decodeLossy, characters, encode, foldl_step_encode, finish, List.append_nil,
    List.reverse_reverse, List.map_map]
  have same : (fun c : Option Char => c.getD replacement) ∘ some = id := rfl
  rw [same, List.map_id, String.ofList_toList]

theorem length_encode (text : String) : (encode text).length = text.utf8ByteSize := by
  rw [← String.size_toByteArray, ← String.utf8Encode_toList, List.utf8Encode, List.size_toByteArray,
    encode]

/-! ### Octets of texts -/

/-- Octets that a text has. -/
def Valid (octets : Bytes) : Prop := ∃ text, encode text = octets

theorem Valid.encode_decodeLossy {octets : Bytes} (valid : Valid octets) :
    encode (decodeLossy octets) = octets := by
  obtain ⟨text, rfl⟩ := valid
  rw [decodeLossy_encode]

/-- Octets of ASCII are a text. -/
theorem valid_of_ascii {octets : Bytes} (ascii : ∀ octet ∈ octets, octet < 0x80) :
    Valid octets := by
  have code : ∀ n < 0x80, String.utf8EncodeChar (Char.ofNat n) = [UInt8.ofNat n] := by decide
  refine ⟨String.ofList (octets.map fun octet => Char.ofNat octet.toNat), ?_⟩
  rw [encode, String.toList_ofList]
  induction octets with
  | nil => rfl
  | cons octet octets ih =>
    have small := UInt8.lt_iff_toNat_lt.1 (ascii octet List.mem_cons_self)
    rw [List.map_cons, List.flatMap_cons, code _ small, UInt8.ofNat_toNat,
      ih fun other member => ascii other (List.mem_cons_of_mem _ member)]
    rfl

/-! ### How many characters there are -/

/-- How many characters a state has found or started. -/
def State.size (state : State) : Nat := state.1.length + if state.2.isSome then 1 else 0

theorem size_begin (found : List (Option Char)) (b : UInt8) :
    (begin found b).size = found.length + 1 := by
  have more (c : Option Char) : State.size (c :: found, none) = found.length + 1 := rfl
  have started (p : Pending) : State.size (found, some p) = found.length + 1 := rfl
  simp only [begin, apply_ite State.size, more, started, ite_self]

theorem size_step_le (state : State) (b : UInt8) : (step state b).size ≤ state.size + 1 := by
  obtain ⟨found, pending⟩ := state
  cases pending with
  | none => exact Nat.le_of_eq (size_begin found b)
  | some p =>
    simp only [step]
    split
    · split <;> simp [State.size]
    · exact Nat.le_of_eq (size_begin (none :: found) b)

theorem size_foldl_step_le (state : State) (octets : Bytes) :
    (octets.foldl step state).size ≤ state.size + octets.length := by
  induction octets generalizing state with
  | nil => exact Nat.le_refl _
  | cons b octets ih =>
    have first := size_step_le state b
    have rest := ih (step state b)
    rw [List.foldl_cons, List.length_cons]
    omega

/-- A text has at most as many characters as it was read from octets. -/
theorem length_decodeLossy_le (octets : Bytes) : (decodeLossy octets).length ≤ octets.length := by
  have finished (state : State) : (finish state).length = state.size := by
    obtain ⟨found, pending⟩ := state
    cases pending <;> simp [finish, State.size]
  have bound := size_foldl_step_le ([], none) octets
  rw [decodeLossy, String.length_ofList, List.length_map, characters, finished]
  simpa [State.size] using bound

end TrackerGateway.Utf8
