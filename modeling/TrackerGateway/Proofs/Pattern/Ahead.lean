import TrackerGateway.Proofs.Pattern.Signs
import TrackerGateway.Proofs.Text.Fronts

/-!
# How far a reader of patterns looks

What a reader takes off the front of a text is the same whatever stands behind it, but for the
character that it sees just ahead (`Local`). Readers made of local ones one after the other are
local (`Local.bind`), and so are those of escapes (`local_escape?`) and of counts
(`local_counts?`).
-/

namespace TrackerGateway.Pattern.Source

open Text (Stops stops_cons exists_stops takeWhile_of_stops dropWhile_of_stops)

variable {α β : Type} {flags : Flags}

/-- Texts are the same as far as a reader looks ahead: one character, or two behind a hyphen or a
brace. -/
def SameAhead (other rest : List Char) : Prop :=
  other.head? = rest.head? ∧
    (rest.head? = some '-' ∨ rest.head? = some '\x7b' → other.take 2 = rest.take 2)

theorem SameAhead.of_take_eq {other rest : List Char} (same : other.take 2 = rest.take 2) :
    SameAhead other rest := by
  have heads := congrArg List.head? same
  rw [List.head?_take, List.head?_take] at heads
  exact ⟨heads, fun _ => same⟩

theorem SameAhead.append {other rest : List Char} (same : SameAhead other rest)
    (front : List Char) : SameAhead (front ++ other) (front ++ rest) := by
  match front with
  | [] => exact same
  | [c] => exact ⟨rfl, fun _ => by simp [List.take_one, same.1]⟩
  | c :: d :: more => exact ⟨rfl, fun _ => rfl⟩

/-- A closing bracket is as far as a reader looks ahead. -/
theorem SameAhead.closing (inner rest other : List Char) :
    SameAhead (inner ++ ']' :: other) (inner ++ ']' :: rest) := by
  have closed : SameAhead (']' :: other) (']' :: rest) := ⟨rfl, by simp⟩
  exact closed.append inner

/-- What a reader takes off the front of a text does not depend on what follows, but for what is
just ahead. -/
def Local (read : List Char → Option (α × List Char)) : Prop :=
  ∀ ⦃cs a rest⦄, read cs = some (a, rest) →
    ∃ taken, cs = taken ++ rest ∧ ∀ other, SameAhead other rest →
      read (taken ++ other) = some (a, other)

theorem local_pure (a : α) : Local fun cs => some (a, cs) := by
  rintro cs _ _ ⟨⟩
  exact ⟨[], rfl, fun _ _ => rfl⟩

theorem local_none : Local fun _ => (none : Option (α × List Char)) := nofun

theorem Local.bind {first : List Char → Option (α × List Char)}
    {next : α → List Char → Option (β × List Char)} (h : Local first) (h' : ∀ a, Local (next a)) :
    Local fun cs => (first cs).bind fun x => next x.1 x.2 := by
  intro cs b rest read
  obtain ⟨⟨a, between⟩, readFirst, readNext⟩ := Option.bind_eq_some_iff.1 read
  obtain ⟨front, rfl, again⟩ := h readFirst
  obtain ⟨back, rfl, againNext⟩ := h' a readNext
  refine ⟨front ++ back, (List.append_assoc ..).symm, fun other same => ?_⟩
  simp only [List.append_assoc, again _ (same.append back), Option.bind_some, againNext other same]

theorem Local.map {read : List Char → Option (α × List Char)} (h : Local read) (f : α → β) :
    Local fun cs => (read cs).map fun x => (f x.1, x.2) := by
  have bound := h.bind fun a => local_pure (f a)
  simpa only [Option.map_eq_bind, Function.comp_def] using bound

theorem Local.ite {condition : Prop} [Decidable condition]
    {read other : List Char → Option (α × List Char)} (h : Local read) (h' : Local other) :
    Local fun cs => if condition then read cs else other cs := by
  by_cases holds : condition
  · simpa only [if_pos holds] using h
  · simpa only [if_neg holds] using h'

/-- A reader is local if it is so behind each first character. -/
theorem local_of_cons {read : List Char → Option (α × List Char)} (nil : read [] = none)
    (cons : ∀ c, Local fun cs => read (c :: cs)) : Local read := by
  intro cs a rest found
  cases cs with
  | nil =>
    rw [nil] at found
    cases found
  | cons c cs =>
    obtain ⟨taken, rfl, again⟩ := cons c found
    exact ⟨c :: taken, rfl, again⟩

/-! ### Escapes -/

theorem local_literal? (c : Char) : Local (literal? flags c) := by
  unfold literal?
  split
  · exact local_pure _
  · exact local_none

theorem local_codePoint? {width : Nat} (positive : 0 < width) : Local (codePoint? width) := by
  intro cs d rest read
  unfold codePoint? at read
  split at read
  case h_1 text =>
    obtain ⟨digits, behind, rfl, all, stops⟩ := exists_stops (· != '\x7d') text
    simp only [takeWhile_of_stops all stops, List.drop_left] at read
    split at read
    case h_1 c found =>
      obtain ⟨d, known, same⟩ := Option.map_eq_some_iff.1 read
      cases same
      refine ⟨'\x7b' :: (digits ++ [c]), by simp, fun other _ => ?_⟩
      have again : (digits ++ c :: other).takeWhile (· != '\x7d') = digits :=
        takeWhile_of_stops all (stops.cons other)
      simp [codePoint?, again, known]
    case h_2 => cases read
  case h_2 noBrace =>
    dsimp only at read
    split at read
    case isFalse => cases read
    case isTrue enough =>
      obtain ⟨d, known, same⟩ := Option.map_eq_some_iff.1 read
      cases same
      refine ⟨cs.take width, (List.take_append_drop width cs).symm, fun other _ => ?_⟩
      have front : (cs.take width ++ other).take width = cs.take width := List.take_left' enough
      unfold codePoint?
      split
      case h_1 found =>
        cases cs with
        | nil => simp at enough; omega
        | cons c more =>
          obtain ⟨k, rfl⟩ := Nat.exists_eq_succ_of_ne_zero (Nat.ne_of_gt positive)
          rw [List.take_succ_cons, List.cons_append] at found
          exact (noBrace more (by rw [(List.cons.inj found).1])).elim
      case h_2 =>
        simp only [front, enough, if_pos, known, Option.map_some, List.drop_left' enough]

theorem local_propertyClass? (isNegated : Bool) : Local (propertyClass? flags isNegated) := by
  intro cs s rest read
  unfold propertyClass? at read
  split at read
  case isTrue => cases read
  case isFalse unicode =>
  dsimp only at read
  split at read
  case h_1 text =>
    obtain ⟨name, behind, rfl, all, stops⟩ := exists_stops (· != '\x7d') text
    simp only [takeWhile_of_stops all stops, List.drop_left] at read
    split at read
    case h_1 c found =>
      obtain ⟨t, known, same⟩ := Option.map_eq_some_iff.1 read
      cases same
      refine ⟨'\x7b' :: (name ++ [c]), by simp, fun other _ => ?_⟩
      have again : (name ++ c :: other).takeWhile (· != '\x7d') = name :=
        takeWhile_of_stops all (stops.cons other)
      unfold propertyClass?
      rw [if_neg unicode]
      simp only [List.cons_append, List.append_assoc, List.nil_append, again, List.drop_left, known,
        Option.map_some]
    case h_2 => cases read
  case h_2 c after noBrace =>
    obtain ⟨t, known, same⟩ := Option.map_eq_some_iff.1 read
    cases same
    refine ⟨[c], rfl, fun other _ => ?_⟩
    unfold propertyClass?
    rw [if_neg unicode]
    simp only [List.cons_append, List.nil_append, known, Option.map_some]
  case h_3 => cases read

/-- The condition on word ends that has a name. -/
def conditionNamed? (flags : Flags) (name : String) : Option Look :=
  match name with
  | "start" => some (.wordStart (wordSet flags))
  | "end" => some (.wordEnd (wordSet flags))
  | "start-half" => some (.wordStartHalf (wordSet flags))
  | "end-half" => some (.wordEndHalf (wordSet flags))
  | _ => none

theorem wordCondition?_eq {name behind : List Char} (all : ∀ c ∈ name, (c != '\x7d') = true)
    (stops : Stops (· != '\x7d') behind) :
    wordCondition? flags (name ++ behind) =
      (conditionNamed? flags (String.ofList name)).map fun condition =>
        (condition, behind.tail) := by
  have back : (name ++ behind).drop (name.length + 1) = behind.tail := by
    rw [← List.drop_drop, List.drop_left, List.drop_one]
  unfold wordCondition? conditionNamed?
  simp only [takeWhile_of_stops all stops, back]
  generalize String.ofList name = named
  split <;> simp_all

/-- The names of conditions on word ends start with letters. -/
theorem wordCondition?_of_head {cs : List Char}
    (noLetter : (cs.head?.map Text.isAsciiLetter).getD false = false) :
    wordCondition? flags cs = none := by
  obtain ⟨name, behind, rfl, all, stops⟩ := exists_stops (· != '\x7d') cs
  have named {first : Char} {others : List Char} (letter : Text.isAsciiLetter first = true) :
      String.ofList name ≠ String.ofList (first :: others) := by
    intro same
    rw [String.ofList_injective same] at noLetter
    simp [letter] at noLetter
  have unknown : conditionNamed? flags (String.ofList name) = none := by
    unfold conditionNamed?
    split
    case h_1 same => exact (named (by decide) same).elim
    case h_2 same => exact (named (by decide) same).elim
    case h_3 same => exact (named (by decide) same).elim
    case h_4 same => exact (named (by decide) same).elim
    case h_5 => rfl
  rw [wordCondition?_eq all stops, unknown]
  rfl

theorem local_wordCondition? : Local (wordCondition? flags) := by
  intro cs condition rest read
  obtain ⟨name, behind, rfl, all, stops⟩ := exists_stops (· != '\x7d') cs
  rw [wordCondition?_eq all stops] at read
  obtain ⟨_, known, same⟩ := Option.map_eq_some_iff.1 read
  cases same
  cases behind with
  | nil =>
    refine ⟨name, rfl, fun other same => ?_⟩
    obtain rfl : other = [] := List.head?_eq_none_iff.1 same.1
    rw [wordCondition?_eq all stops, known]
    rfl
  | cons c more =>
    refine ⟨name ++ [c], by simp, fun other _ => ?_⟩
    rw [List.append_assoc, List.singleton_append, wordCondition?_eq all (stops.cons other), known]
    rfl

theorem escape?_wordEnd (rest : List Char) :
    escape? flags ('b' :: rest) = match rest with
      | '\x7b' :: after =>
        match wordCondition? flags after with
        | some (condition, rest) => some (.look condition, rest)
        | none => if (after.head?.map Text.isAsciiLetter).getD false then none
          else some (.look (.boundary (wordSet flags)), rest)
      | _ => some (.look (.boundary (wordSet flags)), rest) :=
  rfl

/-- A condition on word ends, named in braces or that of the letter alone. -/
theorem local_wordEnd : Local fun rest => escape? flags ('b' :: rest) := by
  intro cs atom rest read
  dsimp only at read ⊢
  rw [escape?_wordEnd] at read
  split at read
  case h_1 after =>
    split at read
    case h_1 condition behind known =>
      cases read
      obtain ⟨taken, rfl, again⟩ := local_wordCondition? known
      refine ⟨'\x7b' :: taken, rfl, fun other same => ?_⟩
      simp only [List.cons_append, escape?_wordEnd, again other same]
    case h_2 =>
      split at read
      case isTrue => cases read
      case isFalse noLetter =>
        cases read
        -- the brace starts a repetition, which the character behind it tells from a name
        refine ⟨[], rfl, fun other same => ?_⟩
        cases other with
        | nil => cases same.1
        | cons c more =>
          obtain ⟨rfl, next⟩ := List.cons.inj (same.2 (.inr rfl))
          have head : more.head? = after.head? := by
            have := congrArg List.head? next
            rwa [List.head?_take, List.head?_take] at this
          rw [← head, Bool.not_eq_true] at noLetter
          simp only [List.nil_append, escape?_wordEnd, wordCondition?_of_head noLetter, noLetter]
          rfl
  case h_2 noBrace =>
    cases read
    refine ⟨[], rfl, fun other same => ?_⟩
    rw [List.nil_append, escape?_wordEnd]
    split
    case h_1 after =>
      have head := same.1
      cases cs with
      | nil => cases head
      | cons c more =>
        cases head
        exact (noBrace more rfl).elim
    case h_2 => rfl

theorem local_escape? : Local (escape? flags) := by
  refine local_of_cons rfl fun c => ?_
  by_cases isWordEnd : c = 'b'
  · rw [isWordEnd]
    exact local_wordEnd
  refine .ite (.bind (local_codePoint? (by decide)) local_literal?) <|
    .ite (.bind (local_codePoint? (by decide)) local_literal?) <|
    .ite (.bind (local_codePoint? (by decide)) local_literal?) <|
    .ite ((local_propertyClass? _).map Atom.set) <| .ite ?_ <| .ite (local_pure _) ?_
  · intro rest atom behind read
    obtain ⟨set, known, same⟩ := Option.map_eq_some_iff.1 read
    cases same
    exact ⟨[], rfl, fun _ _ => by simp [known]⟩
  · intro rest atom behind read
    dsimp only at read ⊢
    split at read
    case h_9 => exact (isWordEnd rfl).elim
    case h_10 =>
      split at read
      case isTrue unicode =>
        cases read
        exact ⟨[], rfl, fun _ _ => if_pos unicode⟩
      case isFalse => cases read
    all_goals cases read
    all_goals exact ⟨[], rfl, fun _ _ => rfl⟩

/-! ### Repetitions -/

theorem laziness_of_head {cs : List Char} (eager : cs.head? ≠ some '?') :
    laziness cs = (false, cs) := by
  unfold laziness
  split
  case h_1 => exact (eager rfl).elim
  case h_2 => rfl

theorem local_laziness : Local fun cs => some (laziness cs) := by
  intro cs isLazy rest read
  by_cases question : cs.head? = some '?'
  · obtain ⟨more, rfl⟩ := List.head?_eq_some_iff.1 question
    cases read
    exact ⟨['?'], rfl, fun _ _ => rfl⟩
  · dsimp only at read ⊢
    rw [laziness_of_head question] at read
    cases read
    refine ⟨[], rfl, fun other same => ?_⟩
    rw [List.nil_append, laziness_of_head (by rwa [same.1])]

section

variable (plain : flags.spaced = false)
include plain

/-- A count stands between blanks. -/
theorem local_count? : Local (count? flags) := by
  intro cs n rest read
  obtain ⟨front, behind, rfl, frontBlank, frontStops⟩ := exists_stops Text.isBlank cs
  obtain ⟨digits, back, rfl, digit, digitsStop⟩ := exists_stops Text.isAsciiDigit behind
  obtain ⟨blanks, last, rfl, blank, blanksStop⟩ := exists_stops Text.isBlank back
  have reads {other : List Char} (same : other.head? = last.head?) :
      count? flags (front ++ (digits ++ (blanks ++ other))) =
        if digits.isEmpty || Nat.pow 2 32 ≤ digits.foldl
          (fun n c => 10 * n + (c.toNat - 48)) 0 then none
        else some (digits.foldl (fun n c => 10 * n + (c.toNat - 48)) 0, other) := by
    have first : Stops Text.isBlank (digits ++ (blanks ++ other)) :=
      frontStops.congr (by simp only [List.head?_append, same])
    have second : Stops Text.isAsciiDigit (blanks ++ other) :=
      digitsStop.congr (by simp only [List.head?_append, same])
    simp only [count?, skip_of_plain plain, dropWhile_of_stops frontBlank first,
      takeWhile_of_stops digit second,
      List.drop_left, dropWhile_of_stops blank (blanksStop.congr same)]
  rw [reads rfl] at read
  split at read
  case isTrue => cases read
  case isFalse small =>
    cases read
    refine ⟨front ++ (digits ++ blanks), by simp only [List.append_assoc], fun other same => ?_⟩
    simp only [List.append_assoc]
    rw [reads same.1, if_neg small]

/-- What follows the least count of a repetition. -/
def countsAfter? (flags : Flags) (least : Nat) (rest : List Char) :
    Option ((Nat × Option Nat) × List Char) :=
  match rest with
  | '\x7d' :: rest => some ((least, some least), rest)
  | ',' :: rest =>
    match skip flags rest with
    | '\x7d' :: rest => some ((least, none), rest)
    | rest => do
      let (most, rest) ← count? flags rest
      match rest with
      | '\x7d' :: rest => if least ≤ most then some ((least, some most), rest) else none
      | _ => none
  | _ => none

theorem local_countsAfter? (least : Nat) : Local (countsAfter? flags least) := by
  intro cs counted rest read
  unfold countsAfter? at read
  split at read
  case h_1 => cases read; exact ⟨['\x7d'], rfl, fun _ _ => rfl⟩
  case h_2 after =>
    rw [skip_of_plain plain] at read
    split at read
    case h_1 =>
      cases read
      refine ⟨[',', '\x7d'], rfl, fun _ _ => ?_⟩
      simp only [List.cons_append, List.nil_append, countsAfter?, skip_of_plain plain]
    case h_2 noBrace =>
      obtain ⟨⟨most, behind⟩, known, read⟩ := Option.bind_eq_some_iff.1 read
      dsimp only at read
      split at read
      case h_1 =>
        split at read
        case isFalse => cases read
        case isTrue ordered =>
          cases read
          obtain ⟨taken, rfl, again⟩ := local_count? plain known
          refine ⟨',' :: (taken ++ ['\x7d']), by simp, fun other same => ?_⟩
          have found := again ('\x7d' :: other) (same.append ['\x7d'])
          simp only [List.cons_append, List.append_assoc, List.nil_append, countsAfter?,
            skip_of_plain plain]
          split
          case h_1 unlike =>
            cases taken with
            | nil => exact (noBrace _ rfl).elim
            | cons c more =>
              exact (noBrace (more ++ '\x7d' :: rest) (by rw [(List.cons.inj unlike).1]; rfl)).elim
          case h_2 =>
            rw [found]
            exact if_pos ordered
      case h_2 => cases read
  case h_3 => cases read

theorem local_counts? : Local (counts? flags) :=
  (local_count? plain).bind (local_countsAfter? plain)

end

end TrackerGateway.Pattern.Source
