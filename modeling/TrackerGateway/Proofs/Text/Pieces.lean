import TrackerGateway.Proofs.Sentence.Numbers

/-!
# Pieces of text and the blanks around them

Pieces that were joined with a separator come apart again (`splitAt_intercalate`), and blanks that
were put around a text play no part once it is trimmed (`Padded.trim_eq`).
-/

namespace TrackerGateway.Text

theorem ontoFirst_eq_modifyHead {α : Type} (x : α) {found : List (List α)} (there : found ≠ []) :
    ontoFirst x found = found.modifyHead (x :: ·) := by
  match found, there with
  | _ :: _, _ => rfl

theorem pieces_eq_splitOn {α : Type} [BEq α] (separator : α) (xs : List α) :
    pieces separator xs = xs.splitOn separator := by
  induction xs with
  | nil => rfl
  | cons x rest ih =>
    have step : pieces separator (x :: rest) =
        if x == separator then [] :: pieces separator rest
        else ontoFirst x (pieces separator rest) := rfl
    rw [step, ih, List.splitOn_cons_eq_if_modifyHead,
      ontoFirst_eq_modifyHead x (List.splitOn_ne_nil separator rest)]

/-- Texts without the separator come apart where they were joined. -/
theorem splitAt_intercalate {separator : Char} {parts : List String} (there : parts ≠ [])
    (clear : ∀ part ∈ parts, separator ∉ part.toList) :
    splitAt separator ((String.singleton separator).intercalate parts) = parts := by
  have apart : ∀ part ∈ parts.map String.toList, separator ∉ part := by
    intro part member
    obtain ⟨text, found, rfl⟩ := List.mem_map.1 member
    exact clear text found
  rw [splitAt, pieces_eq_splitOn, String.toList_intercalate, String.toList_singleton,
    List.splitOn_intercalate separator apart (by simpa using there), List.map_map]
  simp [Function.comp_def]

/-! ### Blanks -/

/-- A text with blanks around it. -/
def Padded (text field : String) : Prop :=
  ∃ before after : List Char, (∀ c ∈ before, isBlank c = true) ∧ (∀ c ∈ after, isBlank c = true) ∧
    field.toList = before ++ (text.toList ++ after)

theorem Padded.refl (text : String) : Padded text text :=
  ⟨[], [], by simp, by simp, by simp⟩

theorem dropWhile_append_of_neg {isPad : Char → Bool} {cs : List Char} (rest : List Char)
    (some_left : cs.dropWhile isPad ≠ []) :
    (cs ++ rest).dropWhile isPad = cs.dropWhile isPad ++ rest := by
  rw [List.dropWhile_append, if_neg (by simpa using some_left)]

theorem trimmed_of_blank {isPad : Char → Bool} {cs : List Char} (blank : ∀ c ∈ cs, isPad c = true) :
    trimmed isPad cs = [] := by
  rw [trimmed, List.dropWhile_eq_nil_iff.2 blank]
  rfl

theorem trimmed_append {isPad : Char → Bool} {before after : List Char} (cs : List Char)
    (front : ∀ c ∈ before, isPad c = true) (back : ∀ c ∈ after, isPad c = true) :
    trimmed isPad (before ++ (cs ++ after)) = trimmed isPad cs := by
  by_cases blank : ∀ c ∈ cs, isPad c = true
  · rw [trimmed_of_blank blank, trimmed_of_blank]
    intro c member
    rcases List.mem_append.1 member with member | member
    · exact front c member
    · rcases List.mem_append.1 member with member | member
      · exact blank c member
      · exact back c member
  · have kept : cs.dropWhile isPad ≠ [] :=
      fun none_left => blank (List.dropWhile_eq_nil_iff.1 none_left)
    have reversed : ∀ c ∈ after.reverse, isPad c = true :=
      fun c member => back c (List.mem_reverse.1 member)
    rw [trimmed, List.dropWhile_append_of_pos front, dropWhile_append_of_neg after kept,
      List.reverse_append, List.dropWhile_append_of_pos reversed]
    rfl

theorem Padded.trim_eq {text field : String} (padded : Padded text field) :
    trim field = trim text := by
  obtain ⟨before, after, front, back, split⟩ := padded
  rw [trim, split, trimmed_append _ front back, trim]

/-- Blanks bring no separator. -/
theorem Padded.notMem {text field : String} (padded : Padded text field) {separator : Char}
    (visible : isBlank separator = false) (clear : separator ∉ text.toList) :
    separator ∉ field.toList := by
  obtain ⟨before, after, front, back, split⟩ := padded
  rw [split, List.mem_append, List.mem_append]
  rintro (member | member | member)
  · simp [front separator member] at visible
  · exact clear member
  · simp [back separator member] at visible

end TrackerGateway.Text
