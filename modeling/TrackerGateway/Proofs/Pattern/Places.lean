import TrackerGateway.Proofs.Pattern.Openings

/-!
# Places of a text where a sign of a pattern starts

The flags change what a sign means, but not where it ends: a reader takes as much under the flags
that a text starts with (`Leaves`, `behind?_of_sign?`). So the places where a sign starts can be
told without reading the pattern (`Reaches`).
-/

namespace TrackerGateway.Pattern.Source

open Text (exists_stops)

variable {α α' β β' : Type} {flags : Flags}

/-- One reader takes what another takes, with a result that is like its result. -/
def Leaves (Like : α → β → Prop) (read : List Char → Option (α × List Char))
    (other : List Char → Option (β × List Char)) : Prop :=
  ∀ ⦃cs a rest⦄, read cs = some (a, rest) → ∃ b, Like a b ∧ other cs = some (b, rest)

theorem leaves_refl (read : List Char → Option (α × List Char)) : Leaves Eq read read :=
  fun _ a _ found => ⟨a, rfl, found⟩

theorem leaves_pure {Like : α → β → Prop} {a : α} {b : β} (like : Like a b) :
    Leaves Like (fun cs => some (a, cs)) fun cs => some (b, cs) := by
  rintro cs _ _ ⟨⟩
  exact ⟨b, like, rfl⟩

theorem Leaves.bind {Like : α → β → Prop} {Like' : α' → β' → Prop}
    {first : List Char → Option (α × List Char)} {first' : List Char → Option (β × List Char)}
    {next : α → List Char → Option (α' × List Char)}
    {next' : β → List Char → Option (β' × List Char)} (h : Leaves Like first first')
    (h' : ∀ {a b}, Like a b → Leaves Like' (next a) (next' b)) :
    Leaves Like' (fun cs => (first cs).bind fun x => next x.1 x.2) fun cs =>
      (first' cs).bind fun x =>
      next' x.1 x.2 := by
  intro cs a rest found
  obtain ⟨⟨b, between⟩, known, onward⟩ := Option.bind_eq_some_iff.1 found
  obtain ⟨c, like, known'⟩ := h known
  obtain ⟨d, like', onward'⟩ := h' like onward
  exact ⟨d, like', by dsimp only; rw [known']; exact onward'⟩

theorem Leaves.map {Like : α → β → Prop} {Like' : α' → β' → Prop}
    {read : List Char → Option (α × List Char)} {other : List Char → Option (β × List Char)}
    (h : Leaves Like read other) {f : α → α'} {g : β → β'}
    (like : ∀ {a b}, Like a b → Like' (f a) (g b)) :
    Leaves Like' (fun cs => (read cs).map fun x => (f x.1, x.2)) fun cs =>
      (other cs).map fun x => (g x.1, x.2) := by
  intro cs a rest found
  obtain ⟨⟨a, rest⟩, known, same⟩ := Option.map_eq_some_iff.1 found
  cases same
  obtain ⟨b, alike, known'⟩ := h known
  exact ⟨g b, like alike, by dsimp only; rw [known']; rfl⟩

/-- What is made of the results does not matter. -/
theorem Leaves.mapAny {Like : α → β → Prop} {read : List Char → Option (α × List Char)}
    {other : List Char → Option (β × List Char)} (h : Leaves Like read other)
    {f : α × List Char → α' × List Char} {g : β × List Char → β' × List Char}
    (rest : ∀ x, (f x).2 = x.2) (rest' : ∀ x, (g x).2 = x.2) :
    Leaves (fun _ _ => True) (fun cs => (read cs).map f) fun cs => (other cs).map g := by
  intro cs a behind found
  obtain ⟨x, known, same⟩ := Option.map_eq_some_iff.1 found
  obtain ⟨b, -, known'⟩ := h known
  have ends : x.2 = behind := (rest x).symm.trans (congrArg Prod.snd same)
  refine ⟨(g (b, x.2)).1, trivial, ?_⟩
  dsimp only
  rw [known', Option.map_some, Option.some.injEq]
  exact Prod.ext rfl ((rest' _).trans ends)

theorem Leaves.ite {Like : α → β → Prop} {condition : Prop} [Decidable condition]
    {read read' : List Char → Option (α × List Char)}
    {other other' : List Char → Option (β × List Char)} (h : Leaves Like read other)
    (h' : Leaves Like read' other') :
    Leaves Like (fun cs => if condition then read cs else read' cs) fun cs =>
      if condition then other cs else other' cs := by
  by_cases holds : condition
  · simpa only [if_pos holds] using h
  · simpa only [if_neg holds] using h'

/-- Units of one kind; a character is like itself only. -/
inductive Atom.Like : Atom → Atom → Prop where
  | char (c : Char) : Like (.char c) (.char c)
  | set (s t : CharSet) : Like (.set s) (.set t)
  | look (k l : Look) : Like (.look k) (.look l)

theorem leaves_literal? (c : Char) : Leaves Atom.Like (literal? flags c) (literal? .initial c) := by
  intro cs a rest found
  unfold literal? at found
  split at found
  case isTrue => cases found; exact ⟨_, .char c, rfl⟩
  case isFalse => cases found

theorem leaves_propertyClass? (isNegated : Bool) :
    Leaves (fun _ _ => True) (propertyClass? flags isNegated)
        (propertyClass? .initial isNegated) := by
  intro cs s rest found
  unfold propertyClass? at found ⊢
  split at found
  case isTrue => cases found
  case isFalse =>
  rw [if_neg (by decide)]
  dsimp only at found ⊢
  split at found
  case h_1 =>
    split at found
    case h_1 shape =>
      obtain ⟨t, known, same⟩ := Option.map_eq_some_iff.1 found
      cases same
      simp only [known, Option.map_some]
      exact ⟨_, trivial, rfl⟩
    case h_2 => cases found
  case h_2 noBrace =>
    obtain ⟨t, known, same⟩ := Option.map_eq_some_iff.1 found
    cases same
    simp only [known, Option.map_some]
    exact ⟨_, trivial, rfl⟩
  case h_3 => cases found

theorem leaves_wordCondition? :
    Leaves (fun _ _ => True) (wordCondition? flags) (wordCondition? .initial) := by
  intro cs condition rest found
  obtain ⟨name, behind, rfl, all, stops⟩ := exists_stops (· != '\x7d') cs
  rw [wordCondition?_eq all stops] at found ⊢
  obtain ⟨k, known, same⟩ := Option.map_eq_some_iff.1 found
  cases same
  have named : ∃ l, conditionNamed? .initial (String.ofList name) = some l := by
    unfold conditionNamed? at known ⊢
    split at known
    case h_5 => cases known
    all_goals exact ⟨_, rfl⟩
  obtain ⟨l, named⟩ := named
  exact ⟨l, trivial, by rw [named]; rfl⟩

theorem leaves_wordEnd :
    Leaves Atom.Like (fun rest => escape? flags ('b' :: rest)) fun rest =>
      escape? .initial ('b' :: rest) := by
  intro cs atom rest found
  dsimp only at found ⊢
  rw [escape?_wordEnd] at found ⊢
  split at found
  case h_1 after =>
    split at found
    case h_1 condition behind known =>
      cases found
      obtain ⟨other, -, known'⟩ := leaves_wordCondition? known
      rw [known']
      exact ⟨_, .look _ _, rfl⟩
    case h_2 =>
      split at found
      case isTrue => cases found
      case isFalse noLetter =>
        cases found
        rw [Bool.not_eq_true] at noLetter
        rw [wordCondition?_of_head noLetter]
        exact ⟨_, .look _ _, if_neg (by rw [noLetter]; decide)⟩
  case h_2 noBrace =>
    cases found
    exact ⟨_, .look _ _, rfl⟩

theorem exists_letterClass? {c : Char} {s : CharSet} (known : letterClass? flags c = some s) :
    ∃ t, letterClass? .initial c = some t := by
  have letters : c.toLower = 'd' ∨ c.toLower = 's' ∨ c.toLower = 'w' := by
    refine Decidable.byContradiction fun others => ?_
    simp only [not_or] at others
    simp [letterClass?, others] at known
  unfold letterClass?
  dsimp only
  split <;> rcases letters with lower | lower | lower <;> rw [lower] <;> exact ⟨_, rfl⟩

theorem leaves_escape? : Leaves Atom.Like (escape? flags) (escape? .initial) := by
  intro cs atom rest found
  cases cs with
  | nil => cases found
  | cons c cs =>
    by_cases isWordEnd : c = 'b'
    · subst isWordEnd
      exact leaves_wordEnd found
    have literal {a b : Char} (same : a = b) :
        Leaves Atom.Like (literal? flags a) (literal? .initial b) :=
      same ▸ leaves_literal? a
    refine (show Leaves Atom.Like (fun cs => escape? flags (c :: cs))
        fun cs => escape? .initial (c :: cs) from
      .ite (.bind (leaves_refl _) literal) <| .ite (.bind (leaves_refl _) literal) <|
        .ite (.bind (leaves_refl _) literal) <|
        .ite ((leaves_propertyClass? _).map fun {s t} _ => .set s t) <| .ite ?_ <|
        .ite (leaves_pure (.char c)) ?_) found
    · intro cs atom rest found
      obtain ⟨s, known, same⟩ := Option.map_eq_some_iff.1 found
      cases same
      obtain ⟨t, known'⟩ := exists_letterClass? known
      exact ⟨.set t, .set s t, by simp only [known', Option.map_some]⟩
    · intro cs atom rest found
      dsimp only at found ⊢
      split at found
      case h_9 => exact (isWordEnd rfl).elim
      case h_10 =>
        split at found
        case isTrue => cases found; exact ⟨_, .look _ _, rfl⟩
        case isFalse => cases found
      all_goals cases found
      all_goals first | exact ⟨_, .char _, rfl⟩ | exact ⟨_, .look _ _, rfl⟩

/-! ### Classes -/

theorem leaves_classItem? : Leaves Atom.Like (classItem? flags) (classItem? .initial) := by
  intro cs atom rest found
  unfold classItem? at found ⊢
  split at found
  case h_1 => cases found
  case h_2 => exact leaves_escape? found
  case h_3 c _ _ => exact leaves_literal? c found

theorem Atom.Like.exists_item? {a b : Atom} (like : Like a b) {s : CharSet}
    (known : a.item? = some s) : ∃ t, b.item? = some t := by
  cases like with
  | char c => exact ⟨_, rfl⟩
  | set s t => exact ⟨_, rfl⟩
  | look k l => cases known

theorem leaves_rangeAfter? {a b : Atom} (like : Atom.Like a b) :
    Leaves (fun _ _ => True) (rangeAfter? flags a) (rangeAfter? .initial b) := by
  have single {cs rest : List Char} {s : CharSet}
      (found : (a.item?.map fun s => (s, cs)) = some (s, rest)) :
      ∃ t, True ∧ (b.item?.map fun s => (s, cs)) = some (t, rest) := by
    obtain ⟨t, known, same⟩ := Option.map_eq_some_iff.1 found
    cases same
    obtain ⟨u, known'⟩ := like.exists_item? known
    exact ⟨u, trivial, by rw [known']; rfl⟩
  intro cs s rest found
  unfold rangeAfter? at found ⊢
  split at found
  case h_1 after =>
    split at found
    case isTrue ends =>
      simp only [if_pos ends]
      exact single found
    case isFalse ranged =>
      simp only [if_neg ranged]
      obtain ⟨⟨last, behind⟩, known, made⟩ := Option.bind_eq_some_iff.1 found
      obtain ⟨other, likeLast, known'⟩ := leaves_classItem? known
      rw [known', Option.bind_some]
      dsimp only at made
      split at made
      case h_2 => cases made
      case h_1 =>
        cases like
        cases likeLast
        split at made
        case isTrue ordered => cases made; exact ⟨_, trivial, if_pos ordered⟩
        case isFalse => cases made
  case h_2 => cases found
  case h_3 => exact single found

section

variable (plain : flags.spaced = false)
include plain

theorem leaves_classRange? :
    Leaves (fun _ _ => True) (classRange? flags) (classRange? .initial) := by
  intro cs s rest found
  rw [classRange?_eq plain] at found
  rw [classRange?_eq rfl]
  exact (leaves_classItem?.bind leaves_rangeAfter?) found

theorem skip_initial (cs : List Char) : skip flags cs = skip .initial cs := skip_of_plain plain cs

theorem classOpening_initial (cs : List Char) :
    classOpening flags cs = classOpening .initial cs := by
  simp only [classOpening, classStart, skip_initial plain]

theorem leaves_classRest? {fuel : Nat} {isNegated : Bool} {before : Option (CharSet × Operation)}
    {items : List CharSet} {cs rest : List Char} {s : CharSet}
    (found : classRest? flags fuel isNegated before items cs = some (s, rest))
    (before' : Option (CharSet × Operation)) (items' : List CharSet) :
    ∃ t, classRest? .initial fuel isNegated before' items' cs = some (t, rest) := by
  -- the sets so far play no part in where the class ends, so the other side may have any
  induction fuel generalizing isNegated before items cs s rest before' items' with
  | zero => cases found
  | succ fuel ih =>
    cases cs with
    | nil =>
      rw [classRest?_nil plain] at found
      cases found
    | cons c cs =>
      rw [classRest?_cons plain] at found
      rw [classRest?_cons rfl]
      split at found
      case isTrue closes =>
        cases found
        exact ⟨_, if_pos closes⟩
      case isFalse goesOn =>
      rw [if_neg goesOn]
      split at found
      case isTrue opens =>
        obtain ⟨⟨t, between⟩, nested, onward⟩ := Option.bind_eq_some_iff.1 found
        have nested' : ∃ u, classNested? .initial fuel cs = some (u, between) := by
          unfold classNested? at nested ⊢
          split at nested
          case h_1 known => cases nested; exact ⟨_, rfl⟩
          case h_2 =>
            rw [classWithin?, classOpening_initial plain] at nested
            exact ih nested none _
        obtain ⟨u, nested'⟩ := nested'
        rw [if_pos opens, nested']
        exact ih onward _ _
      case isFalse item =>
      rw [if_neg item]
      split at found
      case h_1 operation behind known => exact ih found _ _
      case h_2 missing =>
        obtain ⟨⟨t, between⟩, ranged, onward⟩ := Option.bind_eq_some_iff.1 found
        obtain ⟨u, -, ranged'⟩ := leaves_classRange? plain ranged
        rw [ranged']
        exact ih onward _ _

theorem leaves_class? : Leaves (fun _ _ => True) (class? flags) (class? .initial) := by
  intro cs s rest found
  rw [class?_eq plain] at found
  rw [class?_eq rfl, if_neg (by simp [Flags.initial]), ← classOpening_initial plain]
  split at found
  case isTrue => cases found
  case isFalse =>
    rw [classWithin?, classOpening_initial plain] at found
    obtain ⟨t, found'⟩ := leaves_classRest? plain found none (classOpening .initial cs).1.2.reverse
    exact ⟨t, trivial, by rw [classOpening_initial plain]; exact found'⟩

/-! ### Signs -/

theorem counts?_initial (cs : List Char) : counts? flags cs = counts? .initial cs := by
  simp only [counts?, count?, skip_initial plain]

theorem leaves_plainSign? (c : Char) :
    Leaves (fun _ _ => True) (plainSign? flags c) (plainSign? .initial c) := by
  unfold plainSign?
  split
  case h_6 =>
    simp only [counts?_initial plain, skip_initial plain]
    intro cs a rest found
    exact ⟨a, trivial, found⟩
  case h_7 => exact (leaves_class? plain).mapAny (fun _ => rfl) fun _ => rfl
  case h_8 =>
    intro cs a rest found
    obtain ⟨s, -, same⟩ := Option.map_eq_some_iff.1 found
    cases same
    exact ⟨_, trivial, rfl⟩
  case h_11 => exact leaves_escape?.mapAny (fun _ => rfl) fun _ => rfl
  case h_12 => exact (leaves_literal? c).mapAny (fun _ => rfl) fun _ => rfl
  all_goals
    intro cs a rest found
    cases found
    exact ⟨_, trivial, rfl⟩

omit plain in
theorem exists_set? {letter : Char} {value : Bool} {inner : Flags}
    (known : flags.set? letter value = some inner) (other : Flags) :
    ∃ inner', other.set? letter value = some inner' := by
  unfold Flags.set? at known ⊢
  split at known
  case h_8 => cases known
  all_goals exact ⟨_, rfl⟩

omit plain in
theorem exists_flagsOf? {value : Bool} {seen letters : List Char} {inner : Flags}
    (known : flagsOf? flags value seen letters = some inner) (other : Flags) :
    ∃ inner', flagsOf? other value seen letters = some inner' := by
  induction letters generalizing flags value seen other with
  | nil => exact ⟨other, rfl⟩
  | cons c rest ih =>
    rw [flagsOf?] at known ⊢
    split at known
    case isTrue => cases known
    case isFalse fresh =>
    rw [if_neg fresh]
    split at known
    case isTrue hyphen =>
      rw [if_pos hyphen]
      split at known
      case isTrue => cases known
      case isFalse more => rw [if_neg more]; exact ih known other
    case isFalse hyphen =>
      rw [if_neg hyphen]
      split at known
      case h_2 => cases known
      case h_1 next set =>
        obtain ⟨next', set'⟩ := exists_set? set other
        rw [set']
        exact ih known next'

omit plain in
theorem exists_named?_initial {groupCount : Nat} {names : List String} {behind cs : List Char}
    {opening : Opening} (found : named? flags ⟨behind, groupCount, names⟩ cs = some opening) :
    ∃ other, named? .initial ⟨behind, 0, []⟩ cs = some other ∧
        other.sign.2.rest = opening.sign.2.rest := by
  unfold named? at found ⊢
  dsimp only at found ⊢
  split at found
  case h_2 => cases found
  case h_1 shape behindName =>
    split at found
    case isFalse => cases found
    case isTrue allowed =>
      cases found
      simp only [Bool.and_eq_true] at allowed
      simp only [shape]
      exact ⟨_, if_pos (by simp [allowed.1.1, allowed.1.2]), rfl⟩

omit plain in
theorem exists_flagged?_initial {groupCount : Nat} {names : List String} {cs : List Char}
    {opening : Opening} (found : flagged? flags groupCount names cs = some opening) :
    ∃ other, flagged? .initial 0 [] cs = some other ∧ other.sign.2.rest = opening.sign.2.rest := by
  unfold flagged? at found ⊢
  dsimp only at found ⊢
  split at found
  case h_1 shape known =>
    cases found
    obtain ⟨inner, known'⟩ := exists_flagsOf? known .initial
    rw [shape, known']
    exact ⟨_, rfl, rfl⟩
  case h_2 shape known =>
    split at found
    case isTrue => cases found
    case isFalse nonempty =>
      cases found
      obtain ⟨inner, known'⟩ := exists_flagsOf? known .initial
      rw [shape, known']
      exact ⟨_, if_neg nonempty, rfl⟩
  case h_3 => cases found

theorem exists_opening?_initial {groupCount : Nat} {names : List String} {cs : List Char}
    {opening : Opening} (found : opening? flags ⟨cs, groupCount, names⟩ = some opening) :
    ∃ other, opening? .initial ⟨cs, 0, []⟩ = some other ∧
        other.sign.2.rest = opening.sign.2.rest := by
  by_cases question : cs.head? = some '?'
  case neg =>
    rw [opening?_of_head plain question] at found
    cases found
    exact ⟨_, opening?_of_head rfl question, rfl⟩
  obtain ⟨rest, rfl⟩ := List.head?_eq_some_iff.1 question
  by_cases longName : rest.take 2 = ['P', '<']
  case pos =>
    obtain ⟨more, rfl⟩ : ∃ more, rest = 'P' :: '<' :: more :=
      ⟨rest.drop 2, by rw [← List.take_append_drop 2 rest, longName]; rfl⟩
    simp only [opening?, skip_of_plain plain] at found
    exact exists_named?_initial found
  by_cases name : rest.head? = some '<'
  case neg =>
    rw [opening?_flags plain name longName] at found
    rw [opening?_flags rfl name longName]
    exact exists_flagged?_initial found
  obtain ⟨more, rfl⟩ := List.head?_eq_some_iff.1 name
  cases more with
  | nil => simp [opening?, skip_of_plain plain, named?] at found
  | cons c more =>
    by_cases looks : c = '=' ∨ c = '!'
    · rcases looks with rfl | rfl <;> simp [opening?, skip_of_plain plain] at found
    · rw [not_or] at looks
      rw [opening?_name plain looks.1 looks.2] at found
      rw [opening?_name rfl looks.1 looks.2]
      exact exists_named?_initial found

/-- Where the sign in front of a text ends, by the flags that a text starts with. -/
def behind? (cs : List Char) : Option (List Char) :=
  (sign? .initial ⟨cs, 0, []⟩).map fun x => x.2.rest

/-- Where a sign ends does not depend on the flags, nor on the groups before it. -/
theorem behind?_of_sign? {groupCount : Nat} {names : List String} {cs : List Char} {sign : Sign}
    {next : Cursor} (found : sign? flags ⟨cs, groupCount, names⟩ = some (sign, next)) :
    behind? cs = some next.rest := by
  cases cs with
  | nil => cases found
  | cons c cs =>
    by_cases opens : c = '('
    · subst opens
      rw [sign?_open] at found
      obtain ⟨opening, known, same⟩ := Option.map_eq_some_iff.1 found
      obtain ⟨other, known', ends⟩ := exists_opening?_initial plain known
      rw [behind?, sign?_open, known', Option.map_some, Option.map_some, ends, same]
    · rw [sign?_cons flags opens] at found
      obtain ⟨⟨_, rest⟩, known, same⟩ := Option.map_eq_some_iff.1 found
      cases same
      obtain ⟨other, -, known'⟩ := leaves_plainSign? plain c known
      rw [behind?, sign?_cons _ opens, known']
      rfl

end

/-- Reading sign by sign leads from a text to a place in it. -/
inductive Reaches : List Char → List Char → Prop where
  | here (text : List Char) : Reaches text text
  | sign {text rest place : List Char} (first : behind? text = some rest)
    (onward : Reaches rest place) : Reaches text place

theorem exists_of_behind? {cs rest : List Char} (found : behind? cs = some rest) :
    ∃ c taken, cs = c :: (taken ++ rest) ∧ ∀ other, SameAhead other rest →
      behind? (c :: (taken ++ other)) = some other := by
  obtain ⟨⟨sign, next⟩, known, rfl⟩ := Option.map_eq_some_iff.1 found
  obtain ⟨c, taken, rfl, again⟩ := exists_of_sign? rfl known
  refine ⟨c, taken, rfl, fun other same => ?_⟩
  rw [behind?, again other same]
  rfl

theorem Reaches.trans {text between place : List Char} (first : Reaches text between)
    (onward : Reaches between place) : Reaches text place := by
  induction first with
  | here => exact onward
  | sign first _ ih => exact .sign first (ih onward)

/-- A place that is reached is behind some of the text, which leads on to any other text that
starts alike. -/
theorem Reaches.exists_front {text place : List Char} (reaches : Reaches text place) :
    ∃ front, text = front ++ place ∧ ∀ other, SameAhead other place →
        Reaches (front ++ other) other := by
  induction reaches with
  | here text => exact ⟨[], rfl, fun other _ => .here other⟩
  | sign first _ ih =>
    obtain ⟨c, taken, rfl, again⟩ := exists_of_behind? first
    obtain ⟨front, rfl, onward⟩ := ih
    refine ⟨c :: (taken ++ front), by simp, fun other same => ?_⟩
    rw [List.cons_append, List.append_assoc]
    exact .sign (again _ (same.append front)) (onward other same)

/-- Signs are read in one order: of two places that are reached, the one leads to the other. -/
theorem Reaches.onward {text near far : List Char} (first : Reaches text near)
    (second : Reaches text far) (behind : far.length ≤ near.length) : Reaches near far := by
  induction first with
  | here => exact second
  | @sign text rest near known onward ih =>
    cases second with
    | here =>
      obtain ⟨c, taken, rfl, -⟩ := exists_of_behind? known
      obtain ⟨front, rfl, -⟩ := onward.exists_front
      simp only [List.length_cons, List.length_append] at behind
      omega
    | sign known' onward' =>
      obtain rfl := Option.some.inj (known.symm.trans known')
      exact ih onward' behind

end TrackerGateway.Pattern.Source
