import TrackerGateway.Proofs.Pattern.Runs

/-!
# Runs of placeholders in numeric text

A run of a placeholder is written with a count. Where the runs stand apart (`RunsApart`), the
pattern matches the sentences that it matches with every placeholder written by itself
(`accepts_number_of_runsApart`). It does not where a repetition follows a run: that repeats the
whole run, not the last of the placeholders (`not_accepts_iff_of_repeated_run`).
-/

namespace TrackerGateway.Sentence.Template

open Pattern.Source
open Text (Stops stops_cons)

/-- A character of numeric text as pattern text. -/
def letter (c : Char) : List Char :=
  match placeholder? c with
  | some set => set.toList
  | none => if c = '.' then ['\\', '.'] else [c]

/-- Numeric text as pattern text, letter by letter. -/
def spell (text : List Char) : List Char := text.flatMap letter

/-- Adds numeric text that is written letter by letter. -/
def spelled (t : Template) (numeric : String) : Template :=
  t.expression (String.ofList (spell numeric.toList))

/-- Whether a sentence matches a pattern for whole sentences. -/
def Accepts (t : Template) (sentence : String) : Prop :=
  ∃ p, t.compile? = some p ∧ (Fields.ofMatch? p sentence).isSome = true

instance (t : Template) (sentence : String) : Decidable (t.Accepts sentence) :=
  decidable_of_iff ((t.compile?.bind fun p => Fields.ofMatch? p sentence).isSome = true) <| by
    unfold Accepts
    cases t.compile? <;> simp

theorem spell_append (front back : List Char) : spell (front ++ back) = spell front ++ spell back :=
  List.flatMap_append

theorem placeholder?_cases {c : Char} {set : String} (known : placeholder? c = some set) :
    c = 'd' ∧ set = "\\d" ∨ c = 'x' ∧ set = "[0-9a-fA-F]" := by
  unfold placeholder? at known
  split at known
  case isTrue digit => exact .inl ⟨digit, (Option.some.inj known).symm⟩
  case isFalse =>
    split at known
    case isTrue hexDigit => exact .inr ⟨hexDigit, (Option.some.inj known).symm⟩
    case isFalse => cases known

theorem letter_of_placeholder? {c : Char} {set : String} (known : placeholder? c = some set) :
    letter c = set.toList := by
  rw [letter, known]

/-- What stands for a placeholder is a unit of the pattern. -/
theorem isUnit_of_placeholder? {c : Char} {set : String} (known : placeholder? c = some set) :
    IsUnit set.toList := by
  rcases placeholder?_cases known with ⟨-, rfl⟩ | ⟨-, rfl⟩
  · exact isUnit_digit
  · exact isUnit_hexDigit

/-- A letter is a placeholder, a point, or it stays as it is. -/
theorem letter_cases (c : Char) :
    letter c = "\\d".toList ∨ letter c = "[0-9a-fA-F]".toList ∨ letter c = "\\.".toList ∨
      c ≠ 'x' ∧ letter c = [c] := by
  cases known : placeholder? c with
  | some set =>
    rw [letter_of_placeholder? known]
    rcases placeholder?_cases known with ⟨-, rfl⟩ | ⟨-, rfl⟩
    · exact .inl rfl
    · exact .inr (.inl rfl)
  | none =>
    rw [letter, known]
    by_cases point : c = '.'
    · exact .inr (.inr (.inl (if_pos point)))
    · refine .inr (.inr (.inr ⟨?_, if_neg point⟩))
      rintro rfl
      cases known

theorem notMem_spell (text : List Char) : 'x' ∉ spell text := by
  intro mem
  obtain ⟨c, -, mem⟩ := List.mem_flatMap.1 mem
  rcases letter_cases c with same | same | same | ⟨other, same⟩ <;> rw [same] at mem
  case inr.inr.inr => exact other (List.mem_singleton.1 mem).symm
  all_goals exact absurd mem (by decide)

theorem stops_spell {after tail : List Char} (single : Stops isRepetition after)
    (tailStops : Stops isRepetition tail) : Stops isRepetition (spell after ++ tail) := by
  cases after with
  | nil => exact tailStops
  | cons c after =>
    rw [show spell (c :: after) = letter c ++ spell after from rfl]
    rcases letter_cases c with same | same | same | ⟨-, same⟩ <;> rw [same]
    case inr.inr.inr => exact stops_cons (single c rfl) _
    all_goals exact stops_cons (by decide) _

/-! ### Numeric text as it is expanded -/

/-- Where a run ends it is written, and the text goes on as at its start. -/
theorem expandAfter_of_head {last : Char} {count : Nat} {rest : List Char}
    (apart : count = 0 ∨ rest.head? ≠ some last) (other : Char) :
    expandAfter last count rest = expandAfter.flush last count ++ expandAfter other 0 rest := by
  cases rest with
  | nil => exact (List.append_nil _).symm
  | cons c rest =>
    have ends : ¬(c = last ∧ count ≠ 0) := by
      rintro ⟨rfl, more⟩
      exact apart.elim more fun other => other rfl
    have fresh : ¬(c = other ∧ 0 ≠ 0) := fun same => same.2 rfl
    rw [expandAfter, if_neg ends, expandAfter, if_neg fresh]
    rfl

/-- A character that is no placeholder is written as it is alone. -/
theorem expandAfter_letter {c : Char} (plain : placeholder? c = none) (last : Char)
    (rest : List Char) : expandAfter last 0 (c :: rest) = letter c ++ expandAfter ' ' 0 rest := by
  have onward : expandAfter c 0 rest = expandAfter ' ' 0 rest := expandAfter_of_head (.inl rfl) ' '
  have fresh : ¬(c = last ∧ 0 ≠ 0) := fun same => same.2 rfl
  rw [expandAfter, if_neg fresh, letter, plain, onward]
  by_cases point : c = '.'
  · subst point
    rfl
  · simp only [if_neg point]
    rfl

/-- A run is written with its count. -/
theorem expandAfter_run {c : Char} {set : String} (known : placeholder? c = some set)
    {count : Nat} (started : count ≠ 0) (n : Nat) {after : List Char}
    (ends : after.head? ≠ some c) :
    expandAfter c count (List.replicate n c ++ after) =
        run set (count + n) ++ expandAfter ' ' 0 after := by
  induction n generalizing count with
  | zero =>
    rw [List.replicate_zero, List.nil_append, expandAfter_of_head (.inr ends) ' ',
      expandAfter.flush, known, if_neg started]
    rfl
  | succ n ih =>
    rw [List.replicate_succ, List.cons_append, expandAfter, if_pos ⟨rfl, started⟩,
      ih (Nat.succ_ne_zero count), Nat.succ_add, Nat.add_succ]

theorem expandAfter_replicate {c : Char} {set : String} (known : placeholder? c = some set)
    (last : Char) (n : Nat) {after : List Char} (ends : after.head? ≠ some c) :
    expandAfter last 0 (List.replicate (n + 1) c ++ after) =
        run set (n + 1) ++ expandAfter ' ' 0 after := by
  have fresh : ¬(c = last ∧ 0 ≠ 0) := fun same => same.2 rfl
  rw [List.replicate_succ, List.cons_append, expandAfter, if_neg fresh, if_pos (by rw [known]; rfl),
    expandAfter_run known Nat.one_ne_zero n ends, Nat.add_comm 1 n]
  rfl

theorem run_one (set : String) : run set 1 = set.toList := List.append_nil _

theorem run_of_lt {n : Nat} (many : 1 < n) (set : String) : run set n = counted set.toList n := by
  rw [run, if_pos many, counted]
  simp

theorem spell_replicate {c : Char} {set : String} (known : placeholder? c = some set) (n : Nat) :
    spell (List.replicate n c) = copies set.toList n := by
  rw [spell, List.flatMap_replicate, copies, letter, known]

/-- A text that starts with a character starts with a run of it. -/
theorem exists_run (c : Char) (rest : List Char) :
    ∃ n after, c :: rest = List.replicate (n + 1) c ++ after ∧ after.head? ≠ some c := by
  induction rest with
  | nil => exact ⟨0, [], rfl, nofun⟩
  | cons d rest ih =>
    by_cases same : d = c
    · subst same
      obtain ⟨n, after, whole, ends⟩ := ih
      exact ⟨n + 1, after, by rw [whole]; rfl, ends⟩
    · exact ⟨0, d :: rest, rfl, fun first => same (Option.some.inj first)⟩

/-! ### Runs that stand apart -/

/-- In a pattern text that ends with numeric text and a tail, every run of a placeholder starts
where a sign does, no repetition follows it, and its length can be a count. -/
structure ApartIn (text numeric tail : List Char) : Prop where
  starts {c : Char} {after : List Char} : c :: c :: after <:+ numeric →
  (placeholder? c).isSome = true → Reaches text (spell (c :: c :: after) ++ tail)
  single {c : Char} {after : List Char} : c :: c :: after <:+ numeric →
  (placeholder? c).isSome = true → Stops isRepetition after
  few {c : Char} {n : Nat} : List.replicate n c <:+: numeric → (placeholder? c).isSome = true →
    n < Nat.pow 2 32

/-- The runs of numeric text stand apart. -/
def RunsApart (numeric : List Char) : Prop := ApartIn (spell numeric) numeric []

namespace ApartIn

variable {text front numeric after tail : List Char}

theorem of_suffix (apart : ApartIn text numeric tail) (suffix : after <:+ numeric) :
    ApartIn text after tail where
  starts run := apart.starts (run.trans suffix)
  single run := apart.single (run.trans suffix)
  few run := apart.few (run.trans suffix.isInfix)

/-- Runs behind a place that is reached are reached from there. -/
theorem onward (apart : ApartIn text numeric tail) (suffix : after <:+ numeric)
    (reached : Reaches text (spell after ++ tail)) : ApartIn (spell after ++ tail) after tail where
  starts {c more} run isSome := by
    refine reached.onward (apart.starts (run.trans suffix) isSome) ?_
    obtain ⟨between, rfl⟩ := run
    simp only [spell_append, List.length_append]
    omega
  single run := apart.single (run.trans suffix)
  few run := apart.few (run.trans suffix.isInfix)

theorem reaches_run {c : Char} {set : String} (known : placeholder? c = some set) {n : Nat}
    (apart : ApartIn text (List.replicate (n + 2) c ++ after) tail) :
    Reaches text (copies set.toList (n + 2) ++ (spell after ++ tail)) := by
  have first : Reaches text (spell (c :: c :: (List.replicate n c ++ after)) ++ tail) :=
    apart.starts List.suffix_rfl (by rw [known]; rfl)
  rw [← List.append_assoc, ← spell_replicate known, ← spell_append]
  exact first

/-- With its count in front, a run is written like the same run letter by letter. -/
theorem counted_run {c : Char} {set : String} (known : placeholder? c = some set) {n : Nat}
    (apart : ApartIn (front ++ (spell (List.replicate (n + 2) c ++ after) ++ tail))
      (List.replicate (n + 2) c ++ after) tail) (tailStops : Stops isRepetition tail)
    {brief : List Char} (rest : Counted brief (spell after ++ tail)) :
    Counted (front ++ (counted set.toList (n + 2) ++ brief))
      (front ++ (spell (List.replicate (n + 2) c ++ after) ++ tail)) := by
  have isSome : (placeholder? c).isSome = true := by rw [known]; rfl
  have first := apart.reaches_run known
  have last : c :: c :: after <:+ List.replicate (n + 2) c ++ after := by
    refine ⟨List.replicate n c, ?_⟩
    rw [List.replicate_add, List.append_assoc]
    rfl
  have few : n + 2 < Nat.pow 2 32 := apart.few (List.prefix_append _ _).isInfix isSome
  have single := stops_spell (apart.single last isSome) tailStops
  rw [spell_append, spell_replicate known, List.append_assoc] at first ⊢
  exact .run (isUnit_of_placeholder? known) (by omega) few first single rest

/-- Numeric text is written with counts for its runs, if these stand apart. -/
theorem counted_expandAfter (apart : ApartIn (front ++ (spell numeric ++ tail)) numeric tail)
    (tailStops : Stops isRepetition tail) :
    Counted (front ++ (expandAfter ' ' 0 numeric ++ tail)) (front ++ (spell numeric ++ tail)) := by
  -- a run is taken as a whole, so the induction is on the length
  induction h : numeric.length using Nat.strong_induction_on generalizing front numeric with
  | h length ih =>
  subst h
  cases numeric with
  | nil => exact .same _
  | cons c rest =>
  -- without a run the letter joins what is in front, and the places stay where they were
  have behind (single : expandAfter ' ' 0 (c :: rest) = letter c ++ expandAfter ' ' 0 rest) :
      Counted (front ++ (expandAfter ' ' 0 (c :: rest) ++ tail))
          (front ++ (spell (c :: rest) ++ tail)) := by
    have spelled : front ++ (spell (c :: rest) ++ tail) =
        (front ++ letter c) ++ (spell rest ++ tail) := by
      simp only [spell, List.flatMap_cons, List.append_assoc]
    have written : front ++ (expandAfter ' ' 0 (c :: rest) ++ tail) =
        (front ++ letter c) ++ (expandAfter ' ' 0 rest ++ tail) := by
      simp only [single, List.append_assoc]
    rw [spelled] at apart ⊢
    rw [written]
    exact ih rest.length (Nat.lt_succ_self _) (apart.of_suffix (List.suffix_cons c rest)) rfl
  cases known : placeholder? c with
  | none => exact behind (expandAfter_letter known ' ' rest)
  | some set =>
  obtain ⟨n, after, whole, ends⟩ := exists_run c rest
  have expanded := expandAfter_replicate known ' ' n ends
  cases n with
  | zero =>
    rw [← whole] at expanded
    obtain rfl : rest = after := (List.cons.inj whole).2
    exact behind (by rw [expanded, run_one, letter_of_placeholder? known])
  | succ n =>
    rw [whole] at apart ⊢
    have shorter : after.length < (c :: rest).length := by
      rw [whole, List.length_append, List.length_replicate]
      omega
    have reached : Reaches _ (spell after ++ tail) :=
      (apart.reaches_run known).trans ((isUnit_of_placeholder? known).reaches_copies _ _)
    have onward : Counted ([] ++ (expandAfter ' ' 0 after ++ tail)) ([] ++ (spell after ++ tail)) :=
      ih after.length shorter (apart.onward (List.suffix_append _ _) reached) rfl
    rw [expanded, run_of_lt (by omega), List.append_assoc]
    exact apart.counted_run known tailStops onward

/-- More text in front keeps runs apart, if signs lead through it. -/
theorem behind (apart : ApartIn text numeric tail) {whole : List Char}
    (reached : Reaches whole text) : ApartIn whole numeric tail where
  starts run isSome := reached.trans (apart.starts run isSome)
  single := apart.single
  few := apart.few

/-- Runs stand apart whatever follows. -/
theorem append (apart : ApartIn text numeric []) (tail : List Char) :
    ApartIn (text ++ tail) numeric tail where
  starts {c after} run isSome := by
    obtain ⟨set, known⟩ := Option.isSome_iff_exists.1 isSome
    have reached := apart.starts run isSome
    rw [List.append_nil] at reached
    obtain ⟨front, rfl, onward⟩ := reached.exists_front
    have two : 2 ≤ (spell (c :: c :: after)).length := by
      have long := (isUnit_of_placeholder? known).long
      rw [spell, List.flatMap_cons, letter_of_placeholder? known, List.length_append]
      exact Nat.le_add_right_of_le long
    rw [List.append_assoc]
    exact onward _ (.of_take_eq (List.take_append_of_le_length two))
  single := apart.single
  few := apart.few

end ApartIn

/-! ### Whole sentences -/

/-- The pattern for whole sentences of one fragment. -/
theorem compile?_expression (fragment : List Char) :
    (empty.expression (String.ofList fragment)).compile? = Pattern.Source.compile?
          (String.ofList ("(?s)\\A(?:".toList ++ (fragment ++ ")\\z".toList))) := by
  refine congrArg Pattern.Source.compile? (String.toList_inj.1 ?_)
  simp only [source, expression, empty, List.nil_append, String.toList_append, String.toList_ofList,
    List.append_assoc]
  exact congrArg _ (congrArg (· ++ _) String.toList_ofList)

/-- What stands before a fragment are whole signs. -/
theorem reaches_fragment (rest : List Char) : Reaches ("(?s)\\A(?:".toList ++ rest) rest :=
  .sign rfl (.sign rfl (.sign rfl (.here rest)))

/-- Where the runs stand apart, the pattern with their counts is well formed if the one letter by
letter is, and matches the same sentences. -/
theorem accepts_number_of_runsApart {numeric : String} (apart : RunsApart numeric.toList)
    (wellFormed : (empty.spelled numeric).compile?.isSome = true) :
    (empty.number numeric).compile?.isSome = true ∧
      ∀ sentence,
        (empty.number numeric).Accepts sentence ↔ (empty.spelled numeric).Accepts sentence := by
  obtain ⟨p, known⟩ := Option.isSome_iff_exists.1 wellFormed
  have counted : Counted
      ("(?s)\\A(?:".toList ++ (expandAfter ' ' 0 numeric.toList ++ ")\\z".toList))
      ("(?s)\\A(?:".toList ++ (spell numeric.toList ++ ")\\z".toList)) :=
    ((apart.append ")\\z".toList).behind (reaches_fragment _)).counted_expandAfter
      (stops_cons (by decide) _)
  have noBlanks : 'x' ∉ "(?s)\\A(?:".toList ++ (spell numeric.toList ++ ")\\z".toList) := by
    intro mem
    rcases List.mem_append.1 mem with mem | mem
    · exact absurd mem (by decide)
    rcases List.mem_append.1 mem with mem | mem
    · exact notMem_spell _ mem
    · exact absurd mem (by decide)
  have spelledAs := known
  rw [spelled, compile?_expression] at spelledAs
  obtain ⟨q, found, same⟩ := counted.exists_compiled noBlanks spelledAs
  have numbered : (empty.number numeric).compile? = some q := (compile?_expression _).trans found
  refine ⟨by rw [numbered]; rfl, fun sentence => ?_⟩
  unfold Accepts Fields.ofMatch?
  simp only [numbered, known, Option.some.injEq, exists_eq_left', Option.isSome_map, same]

/-- A latitude: the hemisphere, two digits of degrees, and minutes with any number of decimals. -/
def sampleLatitude : String := "([NS])(dd)(dd.d+)"

theorem runsApart_sampleLatitude : RunsApart sampleLatitude.toList := by
  have all : ∀ part ∈ sampleLatitude.toList.tails, part.head? = part.tail.head? →
      part = [] ∨ part = "dd)(dd.d+)".toList ∨ part = "dd.d+)".toList := by
    decide
  have pairs {c : Char} {after : List Char} (suffix : c :: c :: after <:+ sampleLatitude.toList) :
      c = 'd' ∧ after = ")(dd.d+)".toList ∨ c = 'd' ∧ after = ".d+)".toList := by
    rcases all _ ((List.mem_tails _ _).2 suffix) rfl with none | first | second
    · cases none
    · cases first
      exact .inl ⟨rfl, rfl⟩
    · cases second
      exact .inr ⟨rfl, rfl⟩
  constructor
  case starts =>
    intro c after suffix _
    rcases pairs suffix with ⟨rfl, rfl⟩ | ⟨rfl, rfl⟩
    · exact .sign rfl (.sign rfl (.sign rfl (.sign rfl (.here _))))
    · exact .sign rfl (.sign
        rfl (.sign rfl (.sign rfl (.sign rfl (.sign rfl (.sign rfl (.sign rfl (.here _))))))))
  case single =>
    intro c after suffix _
    rcases pairs suffix with ⟨rfl, rfl⟩ | ⟨rfl, rfl⟩ <;> exact stops_cons (by decide) _
  case few =>
    intro c n run _
    have short : n ≤ 17 := by simpa [sampleLatitude] using run.length_le
    exact Nat.lt_of_le_of_lt short (by decide)

theorem accepts_number_of_sampleLatitude :
    RunsApart sampleLatitude.toList ∧ (empty.spelled sampleLatitude).compile?.isSome = true ∧
      (empty.number sampleLatitude).Accepts "N2233.65" := by
  have wellFormed : (empty.spelled sampleLatitude).compile?.isSome = true := by decide +kernel
  obtain ⟨-, same⟩ := accepts_number_of_runsApart runsApart_sampleLatitude wellFormed
  exact ⟨runsApart_sampleLatitude, wellFormed, (same "N2233.65").2 (by decide +kernel)⟩

/-- A repetition behind a run repeats the whole run: three digits are no pairs. -/
theorem not_accepts_iff_of_repeated_run :
    (empty.spelled "dd+").compile?.isSome = true ∧ (empty.number "dd+").compile?.isSome = true ∧
      ¬ ((empty.number "dd+").Accepts "123" ↔ (empty.spelled "dd+").Accepts "123") := by
  decide +kernel

end TrackerGateway.Sentence.Template
