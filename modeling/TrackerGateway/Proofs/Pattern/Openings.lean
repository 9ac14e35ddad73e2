import TrackerGateway.Proofs.Pattern.Brackets

/-!
# Where a sign ends

A sign is taken off the front of a text whatever stands behind it, but for what is just ahead
(`exists_of_sign?`).
-/

namespace TrackerGateway.Pattern.Source

open Text (Stops exists_stops takeWhile_of_stops)

variable {flags : Flags}

section

variable (plain : flags.spaced = false)
include plain

omit plain in
theorem local_repetition (least : Nat) (most : Option Nat) :
    Local fun cs => some (repetition least most cs) :=
  local_laziness.map fun isLazy => Sign.repetition least most isLazy

theorem local_plainSign? (c : Char) : Local (plainSign? flags c) := by
  unfold plainSign?
  split
  case h_1 => exact local_pure _
  case h_2 => exact local_pure _
  case h_3 => exact local_repetition _ _
  case h_4 => exact local_repetition _ _
  case h_5 => exact local_repetition _ _
  case h_6 =>
    simp only [skip_of_plain plain, Option.map_eq_bind]
    exact (local_counts? plain).bind fun counted => local_repetition counted.1 counted.2
  case h_7 => exact (local_class? plain).map fun s => Sign.part (.char s)
  case h_8 =>
    cases dot? flags with
    | none => exact local_none
    | some s => exact local_pure _
  case h_9 => exact local_pure _
  case h_10 => exact local_pure _
  case h_11 => exact local_escape?.map fun atom => Sign.part (atom.pattern flags)
  case h_12 => exact (local_literal? c).map fun atom => Sign.part (atom.pattern flags)

omit plain in
theorem exists_of_named? {groupCount : Nat} {names : List String} {behind cs : List Char}
    {opening : Opening} (found : named? flags ⟨behind, groupCount, names⟩ cs = some opening) :
    ∃ c taken rest more, cs = c :: (taken ++ rest) ∧
      opening = .group flags ⟨rest, groupCount + 1, more⟩ true ∧ ∀ other behind,
        named? flags ⟨behind, groupCount, names⟩ (c :: (taken ++ other)) =
          some (.group flags ⟨other, groupCount + 1, more⟩ true) := by
  obtain ⟨name, last, rfl, all, stops⟩ := exists_stops (· != '>') cs
  simp only [named?, takeWhile_of_stops all stops, List.drop_left] at found
  split at found
  case h_2 => cases found
  case h_1 first others c rest =>
    split at found
    case isFalse => cases found
    case isTrue allowed =>
      cases found
      refine ⟨first, others ++ [c], rest, _, by simp, rfl, fun other behind => ?_⟩
      have again := takeWhile_of_stops all (stops.cons other)
      rw [List.append_assoc, List.singleton_append, ← List.cons_append]
      simp only [named?, again, List.drop_left]
      exact if_pos allowed

theorem opening?_of_head {groupCount : Nat} {names : List String} {cs : List Char}
    (apart : cs.head? ≠ some '?') :
    opening? flags ⟨cs, groupCount, names⟩ =
        some (.group flags ⟨cs, groupCount + 1, names⟩ true) := by
  unfold opening?
  rw [skip_of_plain plain]
  split
  case h_6 => rfl
  all_goals
    rename_i shape
    exact (apart (congrArg List.head? shape)).elim

theorem opening?_name {groupCount : Nat} {names : List String} {c : Char} (behind : c ≠ '=')
    (before : c ≠ '!') (cs : List Char) :
    opening? flags ⟨'?' :: '<' :: c :: cs, groupCount, names⟩ =
      named? flags ⟨'?' :: '<' :: c :: cs, groupCount, names⟩ (c :: cs) := by
  unfold opening?
  rw [skip_of_plain plain]
  split
  case h_1 shape => cases shape
  case h_2 shape => cases shape; exact (behind rfl).elim
  case h_3 shape => cases shape; exact (before rfl).elim
  case h_4 shape => cases shape; rfl
  case h_5 named shape => cases shape; exact (named _ rfl).elim
  case h_6 plainGroup => exact (plainGroup _ rfl).elim

/-- A question mark and flags, up to a colon or a closing parenthesis. -/
def flagged? (flags : Flags) (groupCount : Nat) (names : List String) (rest : List Char) :
    Option Opening :=
  let letters := rest.takeWhile fun c => c != ':' && c != ')'
  match rest.drop letters.length, flagsOf? flags true [] letters with
  | ':' :: rest, some inner => some (.group inner ⟨rest, groupCount, names⟩ false)
  | ')' :: rest, some inner => if letters.isEmpty then
    none else some (.flags inner ⟨rest, groupCount, names⟩)
  | _, _ => none

theorem opening?_flags {groupCount : Nat} {names : List String} {rest : List Char}
    (unnamed : rest.head? ≠ some '<') (other : rest.take 2 ≠ ['P', '<']) :
    opening? flags ⟨'?' :: rest, groupCount, names⟩ = flagged? flags groupCount names rest := by
  unfold opening?
  rw [skip_of_plain plain]
  split
  case h_1 shape => cases shape; exact (other rfl).elim
  case h_2 shape => cases shape; exact (unnamed rfl).elim
  case h_3 shape => cases shape; exact (unnamed rfl).elim
  case h_4 shape => cases shape; exact (unnamed rfl).elim
  case h_5 shape => cases shape; rfl
  case h_6 plainGroup => exact (plainGroup _ rfl).elim

omit plain in
/-- Flags of a group end at a colon or a parenthesis, so they do not become a name by what
follows. -/
theorem exists_of_flagged? {groupCount : Nat} {names : List String} {cs : List Char}
    {opening : Opening} (found : flagged? flags groupCount names cs = some opening) :
    ∃ taken rest sign, cs = taken ++ rest ∧ opening.sign = (sign, ⟨rest, groupCount, names⟩) ∧
      ∀ other, (flagged? flags groupCount names (taken ++ other)).map Opening.sign =
          some (sign, ⟨other, groupCount, names⟩) ∧
        (taken ++ other).head? = cs.head? ∧
        ((taken ++ other).take 2 = ['P', '<'] → cs.take 2 = ['P', '<']) := by
  obtain ⟨letters, last, rfl, all, stops⟩ := exists_stops (fun c => c != ':' && c != ')') cs
  have ahead {d : Char} (known : d = ':' ∨ d = ')') (rest other : List Char) :
      ((letters ++ [d]) ++ other).head? = (letters ++ d :: rest).head? ∧
        (((letters ++ [d]) ++ other).take 2 = ['P', '<'] →
            (letters ++ d :: rest).take 2 = ['P', '<']) := by
    match letters with
    | [] => exact ⟨rfl, fun same => by rcases known with rfl | rfl <;> cases (List.cons.inj same).1⟩
    | [a] =>
      refine ⟨rfl, fun same => ?_⟩
      rcases known with rfl | rfl <;> cases (List.cons.inj (List.cons.inj same).2).1
    | a :: b :: more => exact ⟨rfl, id⟩
  simp only [flagged?, takeWhile_of_stops all stops, List.drop_left] at found
  split at found
  case h_1 rest inner known =>
    cases found
    refine ⟨letters ++ [':'], rest, _, by simp, rfl, fun other => ⟨?_, ahead (.inl rfl) rest other⟩⟩
    rw [List.append_assoc, List.singleton_append]
    simp only [flagged?, takeWhile_of_stops all (stops.cons other), List.drop_left, known]
    rfl
  case h_2 rest inner known =>
    split at found
    case isTrue => cases found
    case isFalse nonempty =>
      cases found
      refine ⟨letters ++ [')'], rest, _, by simp, rfl,
        fun other => ⟨?_, ahead (.inr rfl) rest other⟩⟩
      rw [List.append_assoc, List.singleton_append]
      simp only [flagged?, takeWhile_of_stops all (stops.cons other), List.drop_left, known,
        if_neg nonempty]
      rfl
  case h_3 => cases found

/-- What opens a group ends at a character that is taken, or does not start with a question mark. -/
theorem exists_of_opening? {groupCount : Nat} {names : List String} {cs : List Char} {sign : Sign}
    {next : Cursor}
    (found : (opening? flags ⟨cs, groupCount, names⟩).map Opening.sign = some (sign, next)) :
    ∃ taken, cs = taken ++ next.rest ∧ ∀ other, SameAhead other next.rest →
      (opening? flags ⟨taken ++ other, groupCount, names⟩).map Opening.sign =
        some (sign, { next with rest := other }) := by
  obtain ⟨opening, known, same⟩ := Option.map_eq_some_iff.1 found
  unfold opening? at known
  simp only [skip_of_plain plain] at known
  split at known
  case h_1 rest =>
    obtain ⟨c, taken, rest, more, rfl, rfl, again⟩ := exists_of_named? known
    cases same
    refine ⟨'?' :: 'P' :: '<' :: c :: taken, rfl, fun other _ => ?_⟩
    simp only [List.cons_append, opening?, skip_of_plain plain, again]
    rfl
  case h_2 => cases known
  case h_3 => cases known
  case h_4 rest noBehind noBefore =>
    obtain ⟨c, taken, rest, more, rfl, rfl, again⟩ := exists_of_named? known
    cases same
    refine ⟨'?' :: '<' :: c :: taken, rfl, fun other _ => ?_⟩
    have behind : c ≠ '=' := by rintro rfl; exact noBehind _ rfl
    have before : c ≠ '!' := by rintro rfl; exact noBefore _ rfl
    simp only [List.cons_append, opening?_name plain behind before, again]
    rfl
  case h_5 rest noName _ _ unnamed =>
    obtain ⟨taken, behind, _, rfl, made, again⟩ := exists_of_flagged? known
    cases made.symm.trans same
    refine ⟨'?' :: taken, rfl, fun other _ => ?_⟩
    obtain ⟨found, head, two⟩ := again other
    have noHead : (taken ++ other).head? ≠ some '<' := by
      rw [head]
      intro first
      obtain ⟨more, shape⟩ := List.head?_eq_some_iff.1 first
      exact unnamed more shape
    have noTwo : (taken ++ other).take 2 ≠ ['P', '<'] := by
      intro first
      have shape := List.take_append_drop 2 (taken ++ behind)
      rw [two first] at shape
      exact noName _ shape.symm
    rw [List.cons_append, opening?_flags plain noHead noTwo, found]
  case h_6 noQuestion =>
    -- nothing is taken, but a question mark behind would make it another opening
    cases known
    cases same
    refine ⟨[], rfl, fun other same => ?_⟩
    have apart : other.head? ≠ some '?' := by
      rw [same.1]
      intro head
      obtain ⟨rest, rfl⟩ := List.head?_eq_some_iff.1 head
      exact noQuestion rest rfl
    rw [List.nil_append, opening?_of_head plain apart]
    rfl

/-- A sign is not empty, and what is taken for it does not depend on what follows, but for what is
just ahead. -/
theorem exists_of_sign? {groupCount : Nat} {names : List String} {cs : List Char} {sign : Sign}
    {next : Cursor} (found : sign? flags ⟨cs, groupCount, names⟩ = some (sign, next)) :
    ∃ c taken, cs = c :: (taken ++ next.rest) ∧ ∀ other, SameAhead other next.rest →
      sign? flags ⟨c :: (taken ++ other), groupCount, names⟩ =
          some (sign, { next with rest := other }) := by
  cases cs with
  | nil => cases found
  | cons c cs =>
    by_cases opens : c = '('
    · subst opens
      rw [sign?_open] at found
      obtain ⟨taken, rfl, again⟩ := exists_of_opening? plain found
      exact ⟨'(', taken, rfl, again⟩
    · rw [sign?_cons flags opens] at found
      obtain ⟨⟨found, rest⟩, known, same⟩ := Option.map_eq_some_iff.1 found
      cases same
      obtain ⟨taken, rfl, again⟩ := local_plainSign? plain c known
      refine ⟨c, taken, rfl, fun other same => ?_⟩
      rw [sign?_cons flags opens, again other same]
      rfl

end

variable {groupCount : Nat} {names : List String}

/-! ### Flags that skip nothing -/

/-- Blanks and comments stay as they are behind a sign. -/
def Sign.IsPlain : Sign → Prop
  | .flags inner => inner.spaced = false
  | .group inner _ => inner.spaced = false
  | _ => True

theorem spaced_of_flagsOf? {inner : Flags} {value : Bool} {seen letters : List Char}
    (plain : flags.spaced = false) (noBlanks : 'x' ∉ letters)
    (known : flagsOf? flags value seen letters = some inner) : inner.spaced = false := by
  induction letters generalizing flags value seen with
  | nil =>
    cases known
    exact plain
  | cons c rest ih =>
    obtain ⟨other, noMore⟩ := not_or.1 (mt List.mem_cons.2 noBlanks)
    rw [flagsOf?] at known
    split at known
    case isTrue => cases known
    case isFalse =>
    split at known
    case isTrue =>
      split at known
      case isTrue => cases known
      case isFalse => exact ih plain noMore known
    case isFalse =>
      split at known
      case h_2 => cases known
      case h_1 next set =>
        refine ih ?_ noMore known
        unfold Flags.set? at set
        split at set <;> first | (cases set; exact plain) | exact (other rfl).elim | cases set

theorem isPlain_of_opening? (plain : flags.spaced = false) {cs : List Char} (noBlanks : 'x' ∉ cs)
    {opening : Opening} (known : opening? flags ⟨cs, groupCount, names⟩ = some opening) :
    opening.sign.1.IsPlain := by
  unfold opening? at known
  simp only [skip_of_plain plain] at known
  split at known
  case h_1 =>
    obtain ⟨_, _, _, _, -, rfl, -⟩ := exists_of_named? known
    exact plain
  case h_2 => cases known
  case h_3 => cases known
  case h_4 =>
    obtain ⟨_, _, _, _, -, rfl, -⟩ := exists_of_named? known
    exact plain
  case h_5 rest _ _ _ _ =>
    have noLetter : 'x' ∉ rest.takeWhile fun c => c != ':' && c != ')' := fun mem =>
      noBlanks (List.mem_cons_of_mem _ ((List.takeWhile_prefix _).mem mem))
    split at known
    case h_1 inner =>
      cases known
      exact spaced_of_flagsOf? plain noLetter inner
    case h_2 inner =>
      split at known
      case isTrue => cases known
      case isFalse =>
        cases known
        exact spaced_of_flagsOf? plain noLetter inner
    case h_3 => cases known
  case h_6 =>
    cases known
    exact plain

theorem isPlain_of_plainSign? {c : Char} {cs rest : List Char} {sign : Sign}
    (known : plainSign? flags c cs = some (sign, rest)) : sign.IsPlain := by
  unfold plainSign? at known
  split at known
  case h_6 | h_7 | h_8 | h_11 | h_12 =>
    obtain ⟨_, -, same⟩ := Option.map_eq_some_iff.1 known
    cases same
    trivial
  all_goals
    cases known
    trivial

/-- Without the letter that says so, blanks and comments do not come to stand for nothing. -/
theorem isPlain_of_sign? (plain : flags.spaced = false) {cs : List Char} (noBlanks : 'x' ∉ cs)
    {sign : Sign} {next : Cursor}
    (known : sign? flags ⟨cs, groupCount, names⟩ = some (sign, next)) : sign.IsPlain := by
  cases cs with
  | nil => cases known
  | cons c cs =>
    by_cases opens : c = '('
    · subst opens
      rw [sign?_open] at known
      obtain ⟨opening, known, same⟩ := Option.map_eq_some_iff.1 known
      rw [show sign = opening.sign.1 from (congrArg Prod.fst same).symm]
      exact isPlain_of_opening? plain (fun mem => noBlanks (List.mem_cons_of_mem _ mem)) known
    · rw [sign?_cons flags opens] at known
      obtain ⟨⟨_, rest⟩, found, same⟩ := Option.map_eq_some_iff.1 known
      cases same
      exact isPlain_of_plainSign? found

/-! ### Repetitions -/

/-- A character that starts a repetition. -/
def isRepetition (c : Char) : Bool := c == '?' || c == '*' || c == '+' || c == '\x7b'

/-- Only a character that starts a repetition does. -/
theorem not_stops_of_repetition {cs : List Char} {least : Nat} {most : Option Nat} {isLazy : Bool}
    {next : Cursor}
    (known : sign? flags ⟨cs, groupCount, names⟩ = some (.repetition least most isLazy, next)) :
    ¬Stops isRepetition cs := by
  intro apart
  cases cs with
  | nil => cases known
  | cons c cs =>
    have noRepetition := apart c rfl
    by_cases opens : c = '('
    · subst opens
      rw [sign?_open] at known
      obtain ⟨opening, -, same⟩ := Option.map_eq_some_iff.1 known
      cases opening <;> cases same
    · rw [sign?_cons flags opens] at known
      obtain ⟨⟨_, rest⟩, found, same⟩ := Option.map_eq_some_iff.1 known
      cases same
      unfold plainSign? at found
      split at found
      case h_3 | h_4 | h_5 | h_6 => exact absurd noRepetition (by decide)
      case h_7 | h_8 | h_11 | h_12 =>
        obtain ⟨_, -, same⟩ := Option.map_eq_some_iff.1 found
        cases same
      all_goals cases found

end TrackerGateway.Pattern.Source
