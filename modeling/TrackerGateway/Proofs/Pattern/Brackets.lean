import TrackerGateway.Proofs.Pattern.Ahead

/-!
# Classes in brackets

A class ends with the bracket that closes it, and is the same set whatever stands behind
(`exists_of_class?`). A class within it is read first as a name and then as a class
(`classNested?`): that the name is missing does not come from what is behind the bracket either
(`namedSet?_eq_none`).
-/

namespace TrackerGateway.Pattern.Source

open Text (exists_stops takeWhile_of_stops)

variable {flags : Flags}

/-- A set operation in front of a text, behind its first character. -/
def operation? (c : Char) (rest : List Char) : Option (Operation × List Char) :=
  match c, rest with
  | '&', '&' :: rest => some (.inter, rest)
  | '-', '-' :: rest => some (.diff, rest)
  | '~', '~' :: rest => some (.symmDiff, rest)
  | _, _ => none

/-- A sign of negation in front of a class, if there is one. -/
def negation (cs : List Char) : Bool × List Char :=
  match cs with
  | '^' :: rest => (true, rest)
  | rest => (false, rest)

/-- What opens a class in brackets: whether it is negated, and the first items. -/
def classOpening (flags : Flags) (cs : List Char) : (Bool × List CharSet) × List Char :=
  (((negation cs).1, (classStart flags (negation cs).2).1), (classStart flags (negation cs).2).2)

/-- A class in brackets, behind the first of them. -/
def classWithin? (flags : Flags) (fuel : Nat) (rest : List Char) : Option (CharSet × List Char) :=
  classRest? flags fuel (classOpening flags rest).1.1 none (classOpening flags rest).1.2.reverse
    (classOpening flags rest).2

/-- An item of a class in brackets: a set with a name, or a class within the class. -/
def classNested? (flags : Flags) (fuel : Nat) (rest : List Char) : Option (CharSet × List Char) :=
  match namedSet? ('[' :: rest) with
  | some found => some found
  | none => classWithin? flags fuel rest

section

variable (plain : flags.spaced = false)
include plain

theorem classRest?_nil (fuel : Nat) (isNegated : Bool) (before : Option (CharSet × Operation))
    (items : List CharSet) : classRest? flags (fuel + 1) isNegated before items [] = none := by
  rw [classRest?]
  simp only [skip_of_plain plain]

/-- The rest of a class by the character in front. -/
theorem classRest?_cons (fuel : Nat) (isNegated : Bool) (before : Option (CharSet × Operation))
    (items : List CharSet) (c : Char) (cs : List Char) :
    classRest? flags (fuel + 1) isNegated before items (c :: cs) =
      if c = ']' then some (.negated isNegated
        (meant flags (apply flags before (.unions items.reverse))), cs)
      else if c = '[' then (classNested? flags fuel cs).bind fun x =>
        classRest? flags fuel isNegated before (x.1 :: items) x.2
      else match operation? c cs with
        | some (operation, rest) =>
          classRest? flags fuel isNegated
            (some (apply flags before (.unions items.reverse), operation)) [] rest
        | none => (classRange? flags (c :: cs)).bind fun x =>
          classRest? flags fuel isNegated before (x.1 :: items) x.2 := by
  rw [classRest?]
  simp only [skip_of_plain plain]
  split
  case h_1 shape => cases shape
  case h_2 shape => cases shape; rfl
  case h_3 shape => cases shape; rfl
  case h_4 shape => cases shape; rfl
  case h_5 shape => cases shape; rfl
  case h_6 shape =>
    cases shape
    rw [if_neg (by decide), if_pos rfl, classNested?]
    cases namedSet? ('[' :: cs) with
    | some found => rfl
    | none =>
      dsimp only
      split
      case h_1 s rest found =>
        rw [show classWithin? flags fuel cs = some (s, rest) from found]
        rfl
      case h_2 missing =>
        rw [show classWithin? flags fuel cs = none from missing]
        rfl
  case h_7 noEnd inter diff symm noClass =>
    have noOperation : operation? c cs = none := by
      unfold operation?
      split
      case h_1 => exact (inter _ rfl).elim
      case h_2 => exact (diff _ rfl).elim
      case h_3 => exact (symm _ rfl).elim
      case h_4 => rfl
    rw [if_neg, if_neg, noOperation]
    · cases classRange? flags (c :: cs) <;> rfl
    · rintro rfl; exact noClass _ rfl
    · rintro rfl; exact noEnd _ rfl

end

/-! ### Named sets -/

theorem exists_negation (cs : List Char) : ∃ front, cs = front ++ (negation cs).2 ∧ ']' ∉ front ∧
    ∀ other, other.head? = (negation cs).2.head? →
        negation (front ++ other) = ((negation cs).1, other) := by
  by_cases negated : cs.head? = some '^'
  · obtain ⟨rest, rfl⟩ := List.head?_eq_some_iff.1 negated
    exact ⟨['^'], rfl, by decide, fun _ _ => rfl⟩
  · have plain {cs : List Char} (head : cs.head? ≠ some '^') : negation cs = (false, cs) := by
      unfold negation
      split
      case h_1 => exact (head rfl).elim
      case h_2 => rfl
    rw [plain negated]
    exact ⟨[], rfl, List.not_mem_nil, fun other same => plain (by rwa [List.nil_append, same])⟩

/-- The names of sets have letters only. -/
theorem notMem_of_asciiClass? {name : List Char} {s : CharSet}
    (known : asciiClass? (String.ofList name) = some s) : ']' ∉ name := by
  obtain ⟨text, rfl⟩ : ∃ text : String, name = text.toList :=
    ⟨String.ofList name, String.toList_ofList.symm⟩
  rw [String.ofList_toList] at known
  unfold asciiClass? at known
  split at known
  all_goals first | (cases known; done) | decide

theorem namedSet?_cons (rest : List Char) :
    namedSet? ('[' :: ':' :: rest) =
      match (negation rest).2.drop ((negation rest).2.takeWhile (· != ':')).length with
      | ':' :: ']' :: behind =>
        (asciiClass? (String.ofList ((negation rest).2.takeWhile (· != ':')))).map fun s =>
          (.negated (negation rest).1 s, behind)
      | _ => none :=
  rfl

/-- A named set ends at the first closing bracket. -/
theorem exists_of_namedSet? {cs rest : List Char} {s : CharSet}
    (found : namedSet? cs = some (s, rest)) :
    ∃ inner, cs = inner ++ ']' :: rest ∧ ']' ∉ inner ∧
      ∀ other, namedSet? (inner ++ ']' :: other) = some (s, other) := by
  obtain ⟨cs, rfl⟩ : ∃ more, cs = '[' :: ':' :: more := by
    unfold namedSet? at found
    split at found
    case h_1 more => exact ⟨more, rfl⟩
    case h_2 => cases found
  obtain ⟨front, whole, notMem, again⟩ := exists_negation cs
  obtain ⟨name, behind, shape, all, stops⟩ := exists_stops (· != ':') (negation cs).2
  rw [namedSet?_cons] at found
  simp only [shape, takeWhile_of_stops all stops, List.drop_left] at found
  rw [shape] at whole again
  split at found
  case h_2 => cases found
  case h_1 =>
    obtain ⟨t, known, same⟩ := Option.map_eq_some_iff.1 found
    cases same
    have head (other : List Char) :
        (name ++ ':' :: ']' :: other).head? = (name ++ ':' :: ']' :: rest).head? := by
      cases name <;> rfl
    refine ⟨'[' :: ':' :: (front ++ (name ++ [':'])), ?_, ?_, fun other => ?_⟩
    · simp only [List.cons_append, List.append_assoc, List.nil_append, ← whole]
    · simp [notMem, notMem_of_asciiClass? known]
    · simp only [List.cons_append, List.append_assoc, List.nil_append, namedSet?_cons,
        again _ (head other),
        takeWhile_of_stops all (stops.cons (']' :: other)), List.drop_left, known, Option.map_some]

/-- What is no named set up to a closing bracket is none, whatever follows. -/
theorem namedSet?_eq_none {inner rest : List Char}
    (missing : namedSet? (inner ++ ']' :: rest) = none) (other : List Char) :
    namedSet? (inner ++ ']' :: other) = none := by
  refine Option.eq_none_iff_forall_ne_some.2 fun ⟨s, behind⟩ found => ?_
  obtain ⟨front, whole, notMem, again⟩ := exists_of_namedSet? found
  have first : ∃ more, inner ++ ']' :: rest = front ++ ']' :: more := by
    rcases List.append_eq_append_iff.1 whole with ⟨between, rfl, ends⟩ | ⟨between, rfl, ends⟩
    · cases between with
      | nil => exact ⟨rest, by simp⟩
      | cons c more =>
        obtain ⟨rfl, -⟩ := List.cons.inj ends
        simp at notMem
    · cases between with
      | nil => exact ⟨rest, by simp⟩
      | cons c more =>
        obtain ⟨rfl, -⟩ := List.cons.inj ends
        exact ⟨more ++ ']' :: rest, by simp⟩
  obtain ⟨more, shape⟩ := first
  rw [shape, again] at missing
  cases missing

/-! ### The parts of a class -/

section

variable (plain : flags.spaced = false)
include plain

theorem exists_classStart (cs : List Char) : ∃ front, cs = front ++ (classStart flags cs).2 ∧
    ∀ other, other.head? = (classStart flags cs).2.head? →
      classStart flags (front ++ other) = ((classStart flags cs).1, other) := by
  obtain ⟨hyphens, behind, rfl, all, stops⟩ := exists_stops (· == '-') cs
  by_cases closed : hyphens = [] ∧ behind.head? = some ']'
  · obtain ⟨rfl, head⟩ := closed
    obtain ⟨rest, rfl⟩ := List.head?_eq_some_iff.1 head
    have start (other : List Char) : classStart flags (']' :: other) = ([.single ']'], other) := by
      simp [classStart, skip_of_plain plain]
    rw [List.nil_append, start]
    exact ⟨[']'], rfl, fun other _ => start other⟩
  · have start {other : List Char} (same : other.head? = behind.head?) :
        classStart flags (hyphens ++ other) = (hyphens.map fun c => .single c, other) := by
      simp only [classStart, takeWhile_of_stops all (stops.congr same), List.drop_left,
        skip_of_plain plain]
      split
      case h_1 rest => exact (closed ⟨rfl, same.symm⟩).elim
      case h_2 => rfl
    rw [start rfl]
    exact ⟨hyphens, rfl, fun other same => start same⟩

theorem exists_classOpening (cs : List Char) : ∃ front, cs = front ++ (classOpening flags cs).2 ∧
    ∀ other, other.head? = (classOpening flags cs).2.head? →
      classOpening flags (front ++ other) = ((classOpening flags cs).1, other) := by
  obtain ⟨sign, whole, -, again⟩ := exists_negation cs
  obtain ⟨first, inner, againFirst⟩ := exists_classStart plain (negation cs).2
  refine ⟨sign ++ first, ?_, fun other same => ?_⟩
  · rw [List.append_assoc]
    exact whole.trans (congrArg (sign ++ ·) inner)
  · have head : (first ++ other).head? = (negation cs).2.head? := by
      rw [inner, List.head?_append, List.head?_append, same]
      rfl
    rw [List.append_assoc, classOpening, again _ head, againFirst other same]
    rfl

omit plain in
theorem local_classItem?_cons (c : Char) : Local fun cs => classItem? flags (c :: cs) := by
  by_cases escaped : c = '\\'
  · rw [escaped]
    exact local_escape?
  · have literal (rest : List Char) : classItem? flags (c :: rest) = literal? flags c rest := by
      unfold classItem?
      split
      case h_1 shape => cases shape
      case h_2 shape => exact (escaped (List.cons.inj shape).1).elim
      case h_3 shape => cases shape; rfl
    simp only [literal]
    exact local_literal? c

omit plain in
theorem local_classItem? : Local (classItem? flags) := local_of_cons rfl local_classItem?_cons

/-- An item of a class that is no range. -/
def Atom.item? : Atom → Option CharSet
  | .char c => some (.single c)
  | .set s => some s
  | .look _ => none

/-- What follows the first item of a range. -/
def rangeAfter? (flags : Flags) (first : Atom) (rest : List Char) : Option (CharSet × List Char) :=
  match rest with
  | '-' :: after =>
    if after.head? = some ']' ∨ after.head? = some '-' then first.item?.map fun s => (s, rest)
    else (classItem? flags after).bind fun x =>
      match first, x.1 with
      | .char a, .char b => if a ≤ b then some (.range a b, x.2) else none
      | _, _ => none
  | [] => none
  | _ => first.item?.map fun s => (s, rest)

omit plain in
theorem rangeAfter?_of_head {first : Atom} {rest : List Char} {c : Char}
    (head : rest.head? = some c) (apart : c ≠ '-') :
    rangeAfter? flags first rest = first.item?.map fun s => (s, rest) := by
  unfold rangeAfter?
  split
  case h_1 => exact (apart (Option.some.inj head).symm).elim
  case h_2 => cases head
  case h_3 => rfl

theorem classRange?_eq (cs : List Char) :
    classRange? flags cs = (classItem? flags cs).bind fun x => rangeAfter? flags x.1 x.2 := by
  unfold classRange?
  rw [Option.bind_eq_bind]
  refine congrArg _ (funext fun ⟨first, rest⟩ => ?_)
  simp only [skip_of_plain plain]
  cases rest with
  | nil => rfl
  | cons c after =>
    by_cases hyphen : c = '-'
    · subst hyphen
      cases after with
      | nil => cases first <;> rfl
      | cons d more =>
        by_cases ends : d = ']' ∨ d = '-'
        · rw [rangeAfter?, if_pos (by simpa using ends)]
          rcases ends with rfl | rfl <;> cases first <;> rfl
        · rw [rangeAfter?, if_neg (by simpa using ends)]
          split
          case h_1 shape =>
            cases shape
            split
            case h_1 shape => exact (ends (.inl (List.cons.inj shape).1)).elim
            case h_2 shape => exact (ends (.inr (List.cons.inj shape).1)).elim
            case h_3 => rfl
          case h_2 shape => cases shape
          case h_3 hyphen _ => exact (hyphen _ rfl).elim
    · rw [rangeAfter?_of_head rfl hyphen]
      split
      case h_1 shape => exact (hyphen (List.cons.inj shape).1).elim
      case h_2 shape => cases shape
      case h_3 => cases first <;> rfl

omit plain in
theorem local_rangeAfter? (first : Atom) : Local (rangeAfter? flags first) := by
  intro cs s rest read
  unfold rangeAfter? at read
  split at read
  case h_1 after =>
    split at read
    case isTrue single =>
      obtain ⟨t, known, same⟩ := Option.map_eq_some_iff.1 read
      cases same
      refine ⟨[], rfl, fun other same => ?_⟩
      have two := same.2 (.inl rfl)
      cases other with
      | nil => cases two
      | cons c more =>
        obtain ⟨rfl, next⟩ := List.cons.inj two
        have head : more.head? = after.head? := by
          have := congrArg List.head? next
          rwa [List.head?_take, List.head?_take] at this
        simp only [List.nil_append, rangeAfter?, head, if_pos single, known, Option.map_some]
    case isFalse ranged =>
      obtain ⟨⟨last, behind⟩, known, made⟩ := Option.bind_eq_some_iff.1 read
      obtain ⟨taken, rfl, again⟩ := local_classItem? known
      dsimp only at made
      split at made
      case h_2 => cases made
      case h_1 a b =>
        split at made
        case isFalse => cases made
        case isTrue ordered =>
          cases made
          refine ⟨'-' :: taken, rfl, fun other same => ?_⟩
          have head : (taken ++ other).head? = (taken ++ rest).head? := by
            rw [List.head?_append, List.head?_append, same.1]
          simp only [List.cons_append, rangeAfter?, head, if_neg ranged, again other same,
            Option.bind_some, if_pos ordered]
  case h_2 => cases read
  case h_3 noHyphen noEnd =>
    obtain ⟨t, known, same⟩ := Option.map_eq_some_iff.1 read
    cases same
    refine ⟨[], rfl, fun other same => ?_⟩
    cases cs with
    | nil => exact (noEnd rfl).elim
    | cons c more =>
      have apart : c ≠ '-' := by
        rintro rfl
        exact noHyphen more rfl
      rw [List.nil_append, rangeAfter?_of_head same.1 apart, known]
      rfl

theorem local_classRange? (c : Char) : Local fun cs => classRange? flags (c :: cs) := by
  have bound : Local fun cs => (classItem? flags (c :: cs)).bind fun x =>
    rangeAfter? flags x.1 x.2 :=
    (local_classItem?_cons c).bind local_rangeAfter?
  simpa only [← classRange?_eq plain] using bound

/-! ### Whole classes -/

omit plain in
theorem exists_of_operation? {c : Char} {cs rest : List Char} {operation : Operation}
    (found : operation? c cs = some (operation, rest)) :
    ∃ d, cs = d :: rest ∧ ∀ other, operation? c (d :: other) = some (operation, other) := by
  unfold operation? at found
  split at found
  case h_4 => cases found
  all_goals
    cases found
    exact ⟨_, rfl, fun _ => rfl⟩

omit plain in
theorem operation?_eq_none {c : Char} {cs other : List Char} (missing : operation? c cs = none)
    (same : other.head? = cs.head?) : operation? c other = none := by
  refine Option.eq_none_iff_forall_ne_some.2 fun ⟨operation, rest⟩ found => ?_
  obtain ⟨d, rfl, again⟩ := exists_of_operation? found
  obtain ⟨more, rfl⟩ := List.head?_eq_some_iff.1 same.symm
  rw [again] at missing
  cases missing

/-- What a class is closed by ends an item that is a class, too. -/
theorem exists_of_classNested? {fuel : Nat}
    (ih : ∀ {isNegated before items cs rest s}, classRest? flags fuel isNegated before items cs =
      some (s, rest) → ∃ inner, cs = inner ++ ']' :: rest ∧ ∀ other fuel, inner.length < fuel →
        classRest? flags fuel isNegated before items (inner ++ ']' :: other) = some (s, other))
    {cs rest : List Char} {s : CharSet} (found : classNested? flags fuel cs = some (s, rest)) :
    ∃ inner, cs = inner ++ ']' :: rest ∧ ∀ other fuel, inner.length < fuel →
      classNested? flags fuel (inner ++ ']' :: other) = some (s, other) := by
  unfold classNested? at found
  split at found
  case h_1 known =>
    cases found
    obtain ⟨inner, whole, -, again⟩ := exists_of_namedSet? known
    cases inner with
    | nil => cases whole
    | cons c inner =>
      obtain ⟨rfl, rfl⟩ := List.cons.inj whole
      refine ⟨inner, rfl, fun other fuel _ => ?_⟩
      rw [classNested?, ← List.cons_append, again]
  case h_2 missing =>
    obtain ⟨front, whole, againFront⟩ := exists_classOpening plain cs
    obtain ⟨inner, shape, again⟩ := ih found
    rw [shape] at whole againFront
    refine ⟨front ++ inner, by rw [List.append_assoc]; exact whole, fun other fuel more => ?_⟩
    have head : (inner ++ ']' :: other).head? = (inner ++ ']' :: rest).head? := by
      cases inner <;> rfl
    rw [whole, ← List.append_assoc, ← List.cons_append] at missing
    rw [List.length_append] at more
    rw [classNested?, ← List.cons_append, namedSet?_eq_none missing, List.append_assoc,
      classWithin?, againFront _ head]
    exact again other fuel (by omega)

/-- A class ends with its closing bracket, and nothing behind it matters. -/
theorem exists_of_classRest? {fuel : Nat} {isNegated : Bool} {before : Option (CharSet × Operation)}
    {items : List CharSet} {cs rest : List Char} {s : CharSet}
    (found : classRest? flags fuel isNegated before items cs = some (s, rest)) :
    ∃ inner, cs = inner ++ ']' :: rest ∧ ∀ other fuel, inner.length < fuel →
      classRest? flags fuel isNegated before items (inner ++ ']' :: other) = some (s, other) := by
  -- other text behind may need other fuel, so what is bounded is the part before the bracket
  induction fuel generalizing isNegated before items cs s rest with
  | zero => cases found
  | succ fuel ih =>
    match cs with
    | [] =>
      rw [classRest?_nil plain] at found
      cases found
    | c :: cs =>
      rw [classRest?_cons plain] at found
      split at found
      case isTrue closes =>
        cases found
        refine ⟨[], by rw [closes]; rfl, fun other fuel more => ?_⟩
        obtain ⟨fuel, rfl⟩ := Nat.exists_eq_succ_of_ne_zero (Nat.ne_of_gt more)
        rw [List.nil_append, classRest?_cons plain, if_pos rfl]
      case isFalse goesOn =>
      split at found
      case isTrue opens =>
        subst opens
        obtain ⟨⟨t, between⟩, nested, onward⟩ := Option.bind_eq_some_iff.1 found
        obtain ⟨front, rfl, againFront⟩ := exists_of_classNested? plain ih nested
        obtain ⟨back, rfl, againBack⟩ := ih onward
        refine ⟨'[' :: (front ++ ']' :: back), by simp, fun other fuel more => ?_⟩
        obtain ⟨fuel, rfl⟩ := Nat.exists_eq_succ_of_ne_zero (Nat.ne_of_gt (Nat.zero_lt_of_lt more))
        simp only [List.length_cons, List.length_append] at more
        simp only [List.cons_append, List.append_assoc]
        rw [classRest?_cons plain, if_neg (by decide), if_pos rfl, againFront _ fuel (by omega)]
        exact againBack other fuel (by omega)
      case isFalse item =>
      split at found
      case h_1 operation behind known =>
        obtain ⟨d, rfl, again⟩ := exists_of_operation? known
        obtain ⟨back, rfl, againBack⟩ := ih found
        refine ⟨c :: d :: back, rfl, fun other fuel more => ?_⟩
        obtain ⟨fuel, rfl⟩ := Nat.exists_eq_succ_of_ne_zero (Nat.ne_of_gt (Nat.zero_lt_of_lt more))
        simp only [List.length_cons] at more
        rw [List.cons_append, List.cons_append, classRest?_cons plain, if_neg goesOn,
          if_neg item, again]
        exact againBack other fuel (by omega)
      case h_2 missing =>
        obtain ⟨⟨t, between⟩, ranged, onward⟩ := Option.bind_eq_some_iff.1 found
        obtain ⟨taken, rfl, again⟩ := local_classRange? plain c ranged
        obtain ⟨back, rfl, againBack⟩ := ih onward
        refine ⟨c :: (taken ++ back), by simp, fun other fuel more => ?_⟩
        obtain ⟨fuel, rfl⟩ := Nat.exists_eq_succ_of_ne_zero (Nat.ne_of_gt (Nat.zero_lt_of_lt more))
        simp only [List.length_cons, List.length_append] at more
        have ahead := SameAhead.closing back rest other
        have head : (taken ++ (back ++ ']' :: other)).head? =
            (taken ++ (back ++ ']' :: rest)).head? :=
          (ahead.append taken).1
        simp only [List.cons_append, List.append_assoc]
        rw [classRest?_cons plain, if_neg goesOn, if_neg item, operation?_eq_none missing head]
        dsimp only at again ⊢
        rw [again _ ahead]
        exact againBack other fuel (by omega)

theorem class?_eq (cs : List Char) :
    class? flags cs =
      if ((negation cs).1 && !flags.unicode) = true then none
      else classWithin? flags ((classOpening flags cs).2.length + 1) cs := by
  unfold class?
  simp only [skip_of_plain plain]
  rfl

theorem exists_of_class? {cs rest : List Char} {s : CharSet}
    (found : class? flags cs = some (s, rest)) :
    ∃ inner, cs = inner ++ ']' :: rest ∧ ∀ other, class? flags (inner ++ ']' :: other) =
        some (s, other) := by
  rw [class?_eq plain] at found
  split at found
  case isTrue => cases found
  case isFalse allowed =>
    obtain ⟨front, shape, againFront⟩ := exists_classOpening plain cs
    obtain ⟨inner, inside, again⟩ := exists_of_classRest? plain found
    rw [inside] at shape againFront
    refine ⟨front ++ inner, by rw [List.append_assoc]; exact shape, fun other => ?_⟩
    have opened := againFront (inner ++ ']' :: other) (SameAhead.closing inner rest other).1
    have sign : (negation (front ++ (inner ++ ']' :: other))).1 = (negation cs).1 :=
      congrArg (fun opening => opening.1.1) opened
    rw [List.append_assoc, class?_eq plain, sign, if_neg allowed, classWithin?, opened]
    exact again other _ (by rw [List.length_append]; omega)

theorem local_class? : Local (class? flags) := by
  intro cs s rest found
  obtain ⟨inner, rfl, again⟩ := exists_of_class? plain found
  exact ⟨inner ++ [']'], by simp, fun other _ => by simpa using again other⟩

end

end TrackerGateway.Pattern.Source
