import Mathlib.Computability.Language
import TrackerGateway.Proofs.Pattern.Search
import TrackerGateway.Proofs.Text.Fronts

/-!
# Forms of sentences

A form is a list of parts, some of which are captured. A part is plain: it stands for a language
(`Pattern.language`), wherever it is read. A sentence has a form when it can be divided into texts
of the parts (`Form.Takes`); if all its divisions capture the same, then that is what a match of
the whole sentence finds (`match?_of_takes`). Where commas stand between columns that cannot hold
one, each column takes its own field of the sentence (`takes_separated_append`).
-/

namespace TrackerGateway.Pattern

open Computability

/-! ### Plain patterns -/

/-- The texts of at most so many of a language. -/
def languageUpTo (l : Language Char) : Nat → Language Char
  | 0 => 1
  | most + 1 => 1 + l * languageUpTo l most

/-- The texts of a pattern, its marks and conditions apart. -/
def language : Pattern → Language Char
  | .empty | .mark _ | .look _ => 1
  | .char set => {w | ∃ c, set.has c = true ∧ w = [c]}
  | .seq first second => first.language * second.language
  | .alt first second => first.language + second.language
  | .plus part _ => part.language * part.language∗
  | .again part _ => part.language∗
  | .times part count => part.language ^ count
  | .upTo part most _ => languageUpTo part.language most

/-- Whether a pattern has neither marks nor conditions. -/
def isPlain : Pattern → Bool
  | .empty | .char _ => true
  | .mark _ | .look _ => false
  | .seq first second | .alt first second => first.isPlain && second.isPlain
  | .plus part _ | .again part _ | .times part _ | .upTo part _ _ => part.isPlain

namespace Way

/-- The way along a text of a language, without marks. -/
def along (l : Language Char) : Way := fun s noted t =>
  noted = [] ∧ ∃ w ∈ l, s.rest = w ++ t.rest ∧ t.passed = s.passed ++ w

theorem along_one : along 1 = stay := by
  funext s noted t
  refine propext ⟨?_, ?_⟩
  · rintro ⟨rfl, w, rfl, rest, passed⟩
    exact ⟨rfl, by cases s; cases t; simp_all⟩
  · rintro ⟨rfl, rfl⟩
    exact ⟨rfl, [], rfl, rfl, by simp⟩

theorem along_mul (l m : Language Char) : along (l * m) = (along l).andThen (along m) := by
  funext s noted t
  refine propext ⟨?_, ?_⟩
  · rintro ⟨rfl, w, mem, rest, passed⟩
    obtain ⟨u, memU, v, memV, rfl⟩ := Language.mem_mul.1 mem
    exact ⟨⟨s.passed ++ u, v ++ t.rest⟩, [], [], ⟨rfl, u, memU, by simp [rest], rfl⟩,
      ⟨rfl, v, memV, rfl, by simp [passed]⟩, rfl⟩
  · rintro ⟨between, _, _, ⟨rfl, u, memU, rest, passed⟩, ⟨rfl, v, memV, rest', passed'⟩, rfl⟩
    exact ⟨rfl, u ++ v, Language.append_mem_mul memU memV, by simp [rest, rest'],
      by simp [passed, passed']⟩

theorem along_add (l m : Language Char) :
    along (l + m) = fun s noted t => along l s noted t ∨ along m s noted t := by
  funext s noted t
  refine propext ⟨?_, ?_⟩
  · rintro ⟨rfl, w, mem, h⟩
    exact mem.imp (fun mem => ⟨rfl, w, mem, h⟩) fun mem => ⟨rfl, w, mem, h⟩
  · rintro (⟨rfl, w, mem, h⟩ | ⟨rfl, w, mem, h⟩)
    · exact ⟨rfl, w, .inl mem, h⟩
    · exact ⟨rfl, w, .inr mem, h⟩

theorem along_kstar (l : Language Char) : along l∗ = Repeated (along l) := by
  funext s noted t
  refine propext ⟨?_, fun h => ?_⟩
  · rintro ⟨rfl, w, ⟨ws, rfl, mem⟩, rest, passed⟩
    induction ws generalizing s with
    | nil =>
      obtain rfl : s = t := by cases s; cases t; simp_all
      exact .stop s
    | cons w more ih =>
      have later : ∀ y ∈ more, y ∈ l := fun y inMore => mem y (List.mem_cons_of_mem _ inMore)
      have first : along l s [] ⟨s.passed ++ w, more.flatten ++ t.rest⟩ :=
        ⟨rfl, w, mem w List.mem_cons_self, by simp [rest], rfl⟩
      exact .more first (ih _ later rfl (by simp [passed]))
  · induction h with
    | stop s => exact ⟨rfl, [], Language.nil_mem_kstar l, rfl, by simp⟩
    | more first _ ih =>
      obtain ⟨rfl, u, memU, rest, passed⟩ := first
      obtain ⟨rfl, _, ⟨ws, rfl, mem⟩, rest', passed'⟩ := ih
      refine ⟨rfl, u ++ ws.flatten, ⟨u :: ws, rfl, ?_⟩, by simp [rest, rest'],
        by simp [passed, passed']⟩
      exact List.forall_mem_cons.2 ⟨memU, mem⟩

end Way

/-- A plain pattern leads along the texts of its language. -/
theorem way_of_isPlain {p : Pattern} (plain : p.isPlain = true) : p.way = Way.along p.language := by
  induction p with
  | empty => exact Way.along_one.symm
  | char set =>
    funext s noted t
    refine propext ⟨?_, ?_⟩
    · rintro ⟨c, rest, shape, has, rfl, rfl⟩
      exact ⟨rfl, [c], ⟨c, has, rfl⟩, shape, rfl⟩
    · rintro ⟨rfl, _, ⟨c, has, rfl⟩, rest, passed⟩
      exact ⟨c, t.rest, rest, has, rfl, by cases t; simp_all⟩
  | mark | look => cases plain
  | seq first second ih₁ ih₂ =>
    rw [isPlain, Bool.and_eq_true] at plain
    rw [way, ih₁ plain.1, ih₂ plain.2, language, Way.along_mul]
  | alt first second ih₁ ih₂ =>
    rw [isPlain, Bool.and_eq_true] at plain
    rw [way, ih₁ plain.1, ih₂ plain.2, language, Way.along_add]
  | plus part greedy ih => rw [way, ih plain, language, Way.along_mul, Way.along_kstar]
  | again part greedy ih => rw [way, ih plain, language, Way.along_kstar]
  | times part count ih =>
    rw [way, ih plain, language]
    induction count with
    | zero => rw [Way.often, pow_zero, Way.along_one]
    | succ count ih' => rw [Way.often, ih' plain, pow_succ', Way.along_mul]
  | upTo part most greedy ih =>
    rw [way, ih plain, language]
    induction most with
    | zero => rw [Way.atMost, languageUpTo, Way.along_one]
    | succ most ih' =>
      rw [Way.atMost, ih' plain, languageUpTo, Way.along_add, Way.along_one, Way.along_mul]

/-! ### Runs of a set -/

variable {set : CharSet} {w : List Char}

theorem mem_language_again_char (greedy : Bool) :
    w ∈ (again (char set) greedy).language ↔ ∀ c ∈ w, set.has c = true := by
  constructor
  · rintro ⟨ws, rfl, mem⟩ c inside
    obtain ⟨w, memW, inside⟩ := List.mem_flatten.1 inside
    obtain ⟨d, has, rfl⟩ := mem w memW
    rwa [List.mem_singleton.1 inside]
  · intro all
    have whole : (w.map fun c => [c]).flatten = w := by
      rw [← List.flatMap_def, List.flatMap_singleton']
    refine ⟨w.map fun c => [c], whole.symm, fun _ mem => ?_⟩
    obtain ⟨c, inside, rfl⟩ := List.mem_map.1 mem
    exact ⟨c, all c inside, rfl⟩

theorem mem_language_plus_char {greedy : Bool} :
    w ∈ (plus (char set) greedy).language ↔ w ≠ [] ∧ ∀ c ∈ w, set.has c = true := by
  constructor
  · rintro ⟨_, ⟨c, has, rfl⟩, rest, more, rfl⟩
    exact ⟨List.cons_ne_nil _ _,
      List.forall_mem_cons.2 ⟨has, (mem_language_again_char greedy).1 more⟩⟩
  · rintro ⟨nonempty, all⟩
    cases w with
    | nil => exact absurd rfl nonempty
    | cons c rest =>
      obtain ⟨has, all⟩ := List.forall_mem_cons.1 all
      exact ⟨[c], ⟨c, has, rfl⟩, rest, (mem_language_again_char greedy).2 all, rfl⟩

theorem mem_language_star_char {greedy : Bool} :
    w ∈ (star (char set) greedy).language ↔ ∀ c ∈ w, set.has c = true := by
  have either : w ∈ (star (char set) greedy).language ↔
      w ∈ (plus (char set) greedy).language ∨ w = [] := by
    cases greedy
    · exact or_comm
    · exact Iff.rfl
  rw [either, mem_language_plus_char]
  by_cases empty : w = []
  · simp [empty]
  · simp [empty]

theorem mem_language_times_char {count : Nat} :
    w ∈ (times (char set) count).language ↔ w.length = count ∧ ∀ c ∈ w, set.has c = true := by
  rw [language]
  induction count generalizing w with
  | zero =>
    rw [pow_zero, Language.mem_one, List.length_eq_zero_iff]
    exact ⟨fun empty => ⟨empty, by simp [empty]⟩, And.left⟩
  | succ count ih =>
    rw [pow_succ']
    constructor
    · rintro ⟨_, ⟨c, has, rfl⟩, rest, more, rfl⟩
      obtain ⟨length, all⟩ := ih.1 more
      exact ⟨congrArg (· + 1) length, List.forall_mem_cons.2 ⟨has, all⟩⟩
    · rintro ⟨length, all⟩
      cases w with
      | nil => cases length
      | cons c rest =>
        obtain ⟨has, all⟩ := List.forall_mem_cons.1 all
        exact ⟨[c], ⟨c, has, rfl⟩, rest, ih.2 ⟨Nat.succ.inj length, all⟩, rfl⟩

theorem has_single {c d : Char} : (CharSet.single c).has d = true ↔ d = c := by
  simp only [CharSet.single, CharSet.has, Bool.and_eq_true, decide_eq_true_eq]
  exact ⟨fun ⟨above, below⟩ => Char.le_antisymm below above, fun same => by simp [same]⟩

theorem mem_language_single {c : Char} : w ∈ (char (.single c)).language ↔ w = [c] := by
  constructor
  · rintro ⟨d, has, rfl⟩
    rw [has_single.1 has]
  · rintro rfl
    exact ⟨c, has_single.2 rfl, rfl⟩

theorem mem_language_optional {p : Pattern} {greedy : Bool} :
    w ∈ (upTo p 1 greedy).language ↔ w = [] ∨ w ∈ p.language := by
  rw [language, languageUpTo, languageUpTo, mul_one]
  exact Iff.rfl

/-! ### Parts -/

/-- What was captured: the numbers of groups with their texts. -/
abbrev Captures := List (Nat × List Char)

/-- A part of a form. -/
inductive Part where
  | passed (p : Pattern)
  | captured (group : Nat) (p : Pattern)
  /-- Captured where it is there. -/
  | optional (group : Nat) (p : Pattern)

namespace Part

/-- The pattern of a part. -/
def pattern : Part → Pattern
  | passed p => p
  | captured group p => Pattern.group group p
  | optional group p => .upTo (Pattern.group group p) 1 true

/-- The pattern that is read, less its marks. -/
def inner : Part → Pattern
  | passed p | captured _ p | optional _ p => p

/-- The group of a part. -/
def group? : Part → Option Nat
  | passed _ => none
  | captured group _ | optional group _ => some group

/-- Whether a text is one of a part, and what it captures of it. -/
def Takes : Part → List Char → Captures → Prop
  | passed p, w, caught => w ∈ p.language ∧ caught = []
  | captured group p, w, caught => w ∈ p.language ∧ caught = [(group, w)]
  | optional group p, w, caught =>
    (w = [] ∧ caught = []) ∨ (w ∈ p.language ∧ caught = [(group, w)])

end Part

/-- Whether marks are at both ends of what was captured of a text. -/
inductive Noted (text : List Char) : Marks → Captures → Prop where
  | nil : Noted text [] []
  | cons {group first last : Nat} {w : List Char} {marks : Marks} {caught : Captures}
      (here : slice text (some first) (some last) = some w) (rest : Noted text marks caught) :
      Noted text ((2 * group, first) :: (2 * group + 1, last) :: marks) ((group, w) :: caught)

theorem Noted.append {text : List Char} {first second : Marks} {caught more : Captures}
    (h : Noted text first caught) (h' : Noted text second more) :
    Noted text (first ++ second) (caught ++ more) := by
  induction h with
  | nil => exact h'
  | cons here _ ih => exact .cons here ih

theorem slice_append (passed w rest : List Char) :
    slice (passed ++ (w ++ rest)) (some passed.length) (some (passed ++ w).length) = some w := by
  rw [slice, List.drop_left, List.length_append, Nat.add_sub_cancel_left, List.take_left]

/-- A group leads along the texts of what is in it, with its two marks. -/
theorem way_group {p : Pattern} (plain : p.isPlain = true) {group : Nat} {s t : Spot}
    {noted : Marks} :
    (Pattern.group group p).way s noted t ↔
      noted = [(2 * group, s.position), (2 * group + 1, t.position)] ∧
        ∃ w ∈ p.language, s.rest = w ++ t.rest ∧ t.passed = s.passed ++ w := by
  simp only [Pattern.group, way, way_of_isPlain plain]
  constructor
  · rintro ⟨_, _, _, ⟨rfl, rfl⟩, ⟨_, _, _, ⟨rfl, along⟩, ⟨rfl, rfl⟩, rfl⟩, rfl⟩
    exact ⟨rfl, along⟩
  · rintro ⟨rfl, along⟩
    exact ⟨s, _, _, ⟨rfl, rfl⟩, ⟨t, [], _, ⟨rfl, along⟩, ⟨rfl, rfl⟩, rfl⟩, rfl⟩

/-- Where a part leads, a text of it is passed, and captured between the marks. -/
theorem Part.takes_of_way {part : Part} (plain : part.inner.isPlain = true) {s t : Spot}
    {noted : Marks} (h : part.pattern.way s noted t) :
    ∃ w caught, part.Takes w caught ∧ s.rest = w ++ t.rest ∧ t.passed = s.passed ++ w ∧
      Noted s.text noted caught := by
  have groups {group : Nat} {p : Pattern} (plain : p.isPlain = true)
      {s t : Spot} {noted : Marks} (h : (Pattern.group group p).way s noted t) :
      ∃ w, w ∈ p.language ∧ s.rest = w ++ t.rest ∧ t.passed = s.passed ++ w ∧
        Noted s.text noted [(group, w)] := by
    obtain ⟨rfl, w, mem, rest, passed⟩ := (way_group plain).1 h
    refine ⟨w, mem, rest, passed, .cons ?_ .nil⟩
    rw [Spot.text, rest, Spot.position, Spot.position, passed, slice_append]
  cases part with
  | passed p =>
    rw [Part.pattern, way_of_isPlain (p := p) plain] at h
    obtain ⟨rfl, w, mem, rest, passed⟩ := h
    exact ⟨w, [], ⟨mem, rfl⟩, rest, passed, .nil⟩
  | captured group p =>
    obtain ⟨w, mem, rest, passed, marked⟩ := groups plain h
    exact ⟨w, _, ⟨mem, rfl⟩, rest, passed, marked⟩
  | optional group p =>
    rcases h with ⟨rfl, rfl⟩ | ⟨u, a, b, h, ⟨rfl, rfl⟩, rfl⟩
    · exact ⟨[], [], .inl ⟨rfl, rfl⟩, rfl, by simp, .nil⟩
    · obtain ⟨w, mem, rest, passed, marked⟩ := groups plain h
      exact ⟨w, _, .inr ⟨mem, rfl⟩, rest, passed, by simpa using marked⟩

theorem Part.exists_way_of_takes {part : Part} (plain : part.inner.isPlain = true) {w : List Char}
    {caught : Captures} (h : part.Takes w caught) (passed rest : List Char) :
    ∃ noted, part.pattern.way ⟨passed, w ++ rest⟩ noted ⟨passed ++ w, rest⟩ := by
  have groups (group : Nat) {p : Pattern} (plain : p.isPlain = true) {w : List Char}
      (mem : w ∈ p.language) :
      ∃ noted, (Pattern.group group p).way ⟨passed, w ++ rest⟩ noted ⟨passed ++ w, rest⟩ :=
    ⟨_, (way_group plain).2 ⟨rfl, w, mem, rfl, rfl⟩⟩
  cases part with
  | passed p =>
    exact ⟨[], by rw [Part.pattern, way_of_isPlain (p := p) plain]; exact ⟨rfl, w, h.1, rfl, rfl⟩⟩
  | captured group p => exact groups group plain h.1
  | optional group p =>
    rcases h with ⟨rfl, -⟩ | ⟨mem, -⟩
    · exact ⟨[], .inl ⟨rfl, by simp⟩⟩
    · obtain ⟨noted, way⟩ := groups group plain mem
      exact ⟨noted ++ [], .inr ⟨_, _, _, way, ⟨rfl, rfl⟩, rfl⟩⟩

/-! ### Forms -/

/-- Parts one after the other. -/
abbrev Form := List Part

namespace Form

/-- Whether a text can be divided into texts of the parts, and what these capture. -/
def Takes : Form → List Char → Captures → Prop
  | [], w, caught => w = [] ∧ caught = []
  | part :: rest, w, caught =>
    ∃ u v first more, part.Takes u first ∧ Takes rest v more ∧ w = u ++ v ∧ caught = first ++ more

/-- Whether all parts are plain. -/
def IsPlain (form : Form) : Prop := ∀ part ∈ form, part.inner.isPlain = true

/-- The groups of a form. -/
def groups (form : Form) : List Nat := form.filterMap Part.group?

/-- The pattern of whole sentences of a form. -/
def pattern (form : Form) : Pattern :=
  .seq (.look .textStart) (.seq (sequence (form.map Part.pattern)) (.look .textEnd))

theorem takes_append {first second : Form} {w : List Char} {caught : Captures} :
    Takes (first ++ second) w caught ↔
      ∃ u v front back, Takes first u front ∧ Takes second v back ∧ w = u ++ v ∧
          caught = front ++ back := by
  induction first generalizing w caught with
  | nil =>
    refine ⟨fun h => ⟨[], w, [], caught, ⟨rfl, rfl⟩, h, rfl, rfl⟩, ?_⟩
    rintro ⟨_, v, _, back, ⟨rfl, rfl⟩, h, rfl, rfl⟩
    exact h
  | cons part rest ih =>
    constructor
    · rintro ⟨u, _, a, _, one, others, rfl, rfl⟩
      obtain ⟨v, w, b, c, two, three, rfl, rfl⟩ := ih.1 others
      exact ⟨u ++ v, w, a ++ b, c, ⟨u, v, a, b, one, two, rfl, rfl⟩, three, by simp, by simp⟩
    · rintro ⟨_, w, _, c, ⟨u, v, a, b, one, two, rfl, rfl⟩, three, rfl, rfl⟩
      exact ⟨u, v ++ w, a, b ++ c, one, ih.2 ⟨v, w, b, c, two, three, rfl, rfl⟩, by simp, by simp⟩

theorem takes_singleton {part : Part} {w : List Char} {caught : Captures} :
    Takes [part] w caught ↔ part.Takes w caught := by
  constructor
  · rintro ⟨u, _, first, _, here, ⟨rfl, rfl⟩, rfl, rfl⟩
    rwa [List.append_nil, List.append_nil]
  · intro here
    exact ⟨w, [], caught, [], here, ⟨rfl, rfl⟩, (List.append_nil _).symm, (List.append_nil _).symm⟩

/-- Only groups of the form are captured, and in its order. -/
theorem sublist_groups_of_takes {form : Form} {w : List Char} {caught : Captures}
    (h : form.Takes w caught) : (caught.map (·.1)).Sublist form.groups := by
  induction form generalizing w caught with
  | nil =>
    rw [h.2]
    exact List.Sublist.refl _
  | cons part rest ih =>
    obtain ⟨u, v, first, more, one, others, rfl, rfl⟩ := h
    rw [List.map_append, groups, List.filterMap_cons]
    cases part with
    | passed p =>
      rw [one.2]
      exact ih others
    | captured group p =>
      rw [one.2]
      exact (ih others).cons_cons group
    | optional group p =>
      rcases one with ⟨-, rfl⟩ | ⟨-, rfl⟩
      · exact (ih others).cons group
      · exact (ih others).cons_cons group

theorem takes_of_wayOf {form : Form} (plain : form.IsPlain) {s t : Spot} {noted : Marks}
    (h : wayOf (form.map Part.pattern) s noted t) :
    ∃ w caught, form.Takes w caught ∧ s.rest = w ++ t.rest ∧ t.passed = s.passed ++ w ∧
      Noted s.text noted caught := by
  induction form generalizing s noted with
  | nil =>
    obtain ⟨rfl, rfl⟩ := h
    exact ⟨[], [], ⟨rfl, rfl⟩, rfl, by simp, .nil⟩
  | cons part others ih =>
    obtain ⟨between, a, b, first, second, rfl⟩ := h
    obtain ⟨u, caught, one, rest, passed, marked⟩ :=
      Part.takes_of_way (plain part List.mem_cons_self) first
    obtain ⟨v, more, two, rest', passed', marked'⟩ :=
      ih (fun part mem => plain part (List.mem_cons_of_mem _ mem)) second
    have same : between.text = s.text := by simp [Spot.text, rest, passed]
    rw [same] at marked'
    exact ⟨u ++ v, caught ++ more, ⟨u, v, caught, more, one, two, rfl, rfl⟩, by simp [rest, rest'],
      by simp [passed, passed'], marked.append marked'⟩

theorem exists_wayOf_of_takes {form : Form} (plain : form.IsPlain) {w : List Char}
    {caught : Captures} (h : form.Takes w caught) (passed rest : List Char) :
    ∃ noted, wayOf (form.map Part.pattern) ⟨passed, w ++ rest⟩ noted ⟨passed ++ w, rest⟩ := by
  induction form generalizing w caught passed with
  | nil =>
    rw [h.1, List.append_nil]
    exact ⟨[], rfl, rfl⟩
  | cons part others ih =>
    obtain ⟨u, v, first, more, one, two, rfl, rfl⟩ := h
    obtain ⟨a, way⟩ :=
      Part.exists_way_of_takes (plain part List.mem_cons_self) one passed (v ++ rest)
    obtain ⟨b, way'⟩ :=
      ih (fun part mem => plain part (List.mem_cons_of_mem _ mem)) two (passed ++ u)
    rw [List.append_assoc] at way'
    exact ⟨a ++ b, _, a, b, by rwa [List.append_assoc], way', rfl⟩

end Form

/-! ### Matches -/

theorem slice_onto {text : List Char} {marks : Marks} {caught : Captures}
    (noted : Noted text marks caught) (distinct : (caught.map (·.1)).Nodup) {slots : Slots}
    {count : Nat} (size : slots.length = 2 * count)
    (known : ∀ group ∈ caught.map (·.1), group < count) {group : Nat} :
    slice text ((Marks.onto marks slots).getD (2 * group) none)
        ((Marks.onto marks slots).getD (2 * group + 1) none) =
      (caught.lookup group).or
          (slice text (slots.getD (2 * group) none) (slots.getD (2 * group + 1) none)) := by
  induction noted generalizing slots with
  | nil => rfl
  | @cons other first last w marks caught here _ ih =>
    obtain ⟨new, distinct⟩ := List.nodup_cons.1 distinct
    have inside := known other List.mem_cons_self
    have step : Marks.onto ((2 * other, first) :: (2 * other + 1, last) :: marks) slots =
        Marks.onto marks ((slots.set (2 * other) (some first)).set (2 * other + 1) (some last)) :=
          rfl
    rw [step, ih distinct (by simpa using size) fun group mem => known group
      (List.mem_cons_of_mem _ mem)]
    by_cases same : group = other
    · subst same
      have later : caught.lookup group = none := by
        rw [List.lookup_eq_none_iff]
        intro entry mem
        simpa using fun same : group = entry.1 => new (List.mem_map.2 ⟨entry, mem, same.symm⟩)
      simp only [later, List.getD_eq_getElem?_getD, List.lookup_cons_self]
      rw [List.getElem?_set_ne (by omega), List.getElem?_set_self (by omega),
        List.getElem?_set_self (by simp only [List.length_set]; omega)]
      exact here
    · simp only [List.lookup_cons, beq_eq_false_iff_ne.2 same, List.getD_eq_getElem?_getD]
      rw [List.getElem?_set_ne (by omega), List.getElem?_set_ne (by omega),
        List.getElem?_set_ne (by omega), List.getElem?_set_ne (by omega)]

variable {form : Form} {text : List Char}

/-- A match of a whole sentence divides it into texts of the parts, and finds what these capture. -/
theorem takes_of_match? {count : Nat} (plain : form.IsPlain) (distinct : form.groups.Nodup)
    (known : ∀ group ∈ form.groups, group < count) {groups : List (Option (List Char))}
    (found : Compiled.match? ⟨form.pattern, count⟩ text = some groups) :
    ∃ caught, form.Takes text caught ∧
      groups = (List.range count).map fun group => List.lookup group caught := by
  obtain ⟨_, _, u, whole,
    ⟨origin, _, _, ⟨atStart, rfl, rfl⟩, ⟨_, marks, _, parts, ⟨atEnd, rfl, rfl⟩, rfl⟩,
    rfl⟩, rfl⟩ := Compiled.exists_way_of_match? found
  rw [way_sequence] at parts
  obtain ⟨w, caught, takes, rest, -, marked⟩ := Form.takes_of_wayOf plain parts
  have start : origin.passed = [] := by simpa [Look.holds, Spot.place] using atStart
  have stop : u.rest = [] := by simpa [Look.holds, Spot.place] using atEnd
  rw [stop, List.append_nil] at rest
  have same : w = text := by rw [← whole, Spot.text, start, rest, List.nil_append]
  rw [same] at takes
  refine ⟨caught, takes, ?_⟩
  rw [whole] at marked
  have sub := Form.sublist_groups_of_takes takes
  simp only [Marks.groups, List.nil_append, List.append_nil]
  refine List.map_congr_left fun group _ => ?_
  rw [slice_onto marked (sub.nodup distinct) (by simp) fun group mem => known group
    (sub.subset mem)]
  have blank (slot : Nat) : (List.replicate (2 * count) (none : Option Nat)).getD slot none =
      none := by
    rw [List.getD_eq_getElem?_getD, List.getElem?_replicate]
    split <;> rfl
  rw [blank, blank]
  exact Option.or_none

/-- A sentence whose divisions all capture the same is matched, and that is what the groups are. -/
theorem match?_of_takes (count : Nat) (plain : form.IsPlain) (distinct : form.groups.Nodup)
    (known : ∀ group ∈ form.groups, group < count) {caught : Captures}
    (takes : form.Takes text caught) (unique : ∀ other, form.Takes text other → other = caught) :
    Compiled.match? ⟨form.pattern, count⟩ text =
      some ((List.range count).map fun group => List.lookup group caught) := by
  obtain ⟨noted, way⟩ := Form.exists_wayOf_of_takes plain takes [] []
  rw [List.append_nil, List.nil_append] at way
  have found : (Compiled.match? ⟨form.pattern, count⟩ text).isSome = true := by
    rw [← way_sequence] at way
    have whole : form.pattern.way ⟨[], text⟩ ([] ++ (noted ++ [])) ⟨text, []⟩ :=
      ⟨_, [], _, ⟨rfl, rfl, rfl⟩, ⟨_, noted, [], way, ⟨rfl, rfl, rfl⟩, rfl⟩, rfl⟩
    exact Compiled.isSome_match?_of_way whole
  obtain ⟨groups, found⟩ := Option.isSome_iff_exists.1 found
  obtain ⟨other, takes, rfl⟩ := takes_of_match? plain distinct known found
  rw [found, unique other takes]

/-- What is captured of a part that is always captured is a text of its pattern. -/
theorem exists_lookup_of_takes (distinct : form.groups.Nodup) {caught : Captures}
    (takes : form.Takes text caught) {group : Nat} {p : Pattern}
    (here : Part.captured group p ∈ form) :
    ∃ w ∈ p.language, List.lookup group caught = some w := by
  have captured : ∃ w ∈ p.language, (group, w) ∈ caught := by
    clear distinct
    induction form generalizing text caught with
    | nil => cases here
    | cons part rest ih =>
      obtain ⟨u, v, first, more, one, others, rfl, rfl⟩ := takes
      rcases List.mem_cons.1 here with rfl | here
      · obtain ⟨mem, rfl⟩ := one
        exact ⟨u, mem, List.mem_cons_self⟩
      · obtain ⟨w, mem, inside⟩ := ih others here
        exact ⟨w, mem, List.mem_append_right _ inside⟩
  obtain ⟨w, mem, inside⟩ := captured
  obtain ⟨front, back, rfl⟩ := List.append_of_mem inside
  have once := (Form.sublist_groups_of_takes takes).nodup distinct
  rw [List.map_append, List.map_cons, List.nodup_append] at once
  refine ⟨w, mem, List.lookup_eq_some_iff.2 ⟨front, back, rfl, fun entry earlier => ?_⟩⟩
  have other := once.2.2 entry.1 (List.mem_map_of_mem earlier) group List.mem_cons_self
  simpa using other.symm

/-! ### Columns -/

/-- Whether no text of a pattern has a character. -/
def avoids (c : Char) : Pattern → Bool
  | .empty | .mark _ | .look _ => true
  | .char set => !set.has c
  | .seq first second | .alt first second => first.avoids c && second.avoids c
  | .plus part _ | .again part _ | .times part _ | .upTo part _ _ => part.avoids c

theorem notMem_of_avoids {c : Char} {p : Pattern} (h : p.avoids c = true) {w : List Char}
    (mem : w ∈ p.language) : c ∉ w := by
  have mul {l m : Language Char} (one : ∀ w ∈ l, c ∉ w) (two : ∀ w ∈ m, c ∉ w) :
      ∀ w ∈ l * m, c ∉ w := by
    rintro _ ⟨u, memU, v, memV, rfl⟩ inside
    exact (List.mem_append.1 inside).elim (one u memU) (two v memV)
  have kstar {l : Language Char} (one : ∀ w ∈ l, c ∉ w) : ∀ w ∈ l∗, c ∉ w := by
    rintro _ ⟨ws, rfl, mem⟩ inside
    obtain ⟨w, memW, inside⟩ := List.mem_flatten.1 inside
    exact one w (mem w memW) inside
  have nil : ∀ w ∈ (1 : Language Char), c ∉ w := by
    rintro _ rfl
    exact List.not_mem_nil
  induction p generalizing w with
  | empty | mark | look => exact nil w mem
  | char set =>
    obtain ⟨d, has, rfl⟩ := mem
    intro inside
    obtain rfl := List.mem_singleton.1 inside
    simp [avoids, has] at h
  | seq first second ih₁ ih₂ =>
    rw [avoids, Bool.and_eq_true] at h
    exact mul (fun _ => ih₁ h.1) (fun _ => ih₂ h.2) w mem
  | alt first second ih₁ ih₂ =>
    rw [avoids, Bool.and_eq_true] at h
    exact mem.elim (ih₁ h.1) (ih₂ h.2)
  | plus part greedy ih => exact mul (fun _ => ih h) (kstar fun _ => ih h) w mem
  | again part greedy ih => exact kstar (fun _ => ih h) w mem
  | times part count ih =>
    rw [language] at mem
    induction count generalizing w with
    | zero => exact nil w mem
    | succ count ih' =>
      rw [pow_succ'] at mem
      exact mul (fun _ => ih h) (fun _ => ih' h) w mem
  | upTo part most greedy ih =>
    rw [language] at mem
    induction most generalizing w with
    | zero => exact nil w mem
    | succ most ih' => exact mem.elim (nil w) (mul (fun _ => ih h) (fun _ => ih' h) w)

namespace Form

/-- Columns with a separator behind each. -/
def separated (c : Char) (columns : List Form) : Form :=
  columns.flatMap fun column => column ++ [.passed (.char (.single c))]

theorem mem_separated {c : Char} {columns : List Form} {part : Part}
    (here : part ∈ columns.flatten) : part ∈ separated c columns := by
  obtain ⟨column, inColumns, inColumn⟩ := List.mem_flatten.1 here
  exact List.mem_flatMap.2 ⟨column, inColumns, List.mem_append_left _ inColumn⟩

/-- Whether each of some fields is taken by its column, and what they capture. -/
def Columns : List Form → List (List Char) → Captures → Prop
  | [], [], caught => caught = []
  | column :: columns, field :: fields, caught =>
    ∃ first more, column.Takes field first ∧ Columns columns fields more ∧ caught = first ++ more
  | _, _, _ => False

theorem notMem_of_takes {c : Char} {form : Form} (h : ∀ part ∈ form, part.inner.avoids c = true)
    {w : List Char} {caught : Captures} (takes : form.Takes w caught) : c ∉ w := by
  induction form generalizing w caught with
  | nil =>
    rw [takes.1]
    exact List.not_mem_nil
  | cons part rest ih =>
    obtain ⟨u, v, first, more, one, others, rfl, rfl⟩ := takes
    have here : c ∉ u := by
      have avoids := h part List.mem_cons_self
      cases part with
      | passed p | captured group p => exact notMem_of_avoids avoids one.1
      | optional group p =>
        rcases one with ⟨rfl, -⟩ | ⟨mem, -⟩
        · exact List.not_mem_nil
        · exact notMem_of_avoids avoids mem
    intro inside
    exact (List.mem_append.1 inside).elim here
      (ih (fun part mem => h part (List.mem_cons_of_mem _ mem)) others)

theorem takes_separator {c : Char} {w : List Char} {caught : Captures} :
    Takes [.passed (.char (.single c))] w caught ↔ w = [c] ∧ caught = [] :=
  takes_singleton.trans (and_congr_left fun _ => mem_language_single)

/-- Behind columns that cannot hold the separator, each field between separators is its column's. -/
theorem takes_separated_append {c : Char} {columns : List Form}
    (avoid : ∀ column ∈ columns, ∀ part ∈ column, part.inner.avoids c = true) {last : Form}
    {fields : List (List Char)} (clear : ∀ field ∈ fields, c ∉ field)
    (same : fields.length = columns.length) {rest : List Char} {caught : Captures} :
    Takes (separated c columns ++ last) (fields.flatMap (· ++ [c]) ++ rest) caught ↔
      ∃ front back, Columns columns fields front ∧ last.Takes rest back ∧
          caught = front ++ back := by
  induction columns generalizing fields caught with
  | nil =>
    obtain rfl := List.length_eq_zero_iff.1 same
    refine ⟨fun h => ⟨[], caught, rfl, h, rfl⟩, ?_⟩
    rintro ⟨_, back, rfl, h, rfl⟩
    exact h
  | cons column columns ih =>
    obtain _ | ⟨field, fields⟩ := fields
    · cases same
    have ih := @ih (fun column mem => avoid column (List.mem_cons_of_mem _ mem)) fields
      (fun field mem => clear field (List.mem_cons_of_mem _ mem)) (Nat.succ.inj same)
    have parts : separated c (column :: columns) ++ last =
        column ++ ([.passed (.char (.single c))] ++ (separated c columns ++ last)) := by
      simp [separated]
    have texts : (field :: fields).flatMap (· ++ [c]) ++ rest =
        field ++ c :: (fields.flatMap (· ++ [c]) ++ rest) := by
      simp
    rw [parts, texts, takes_append]
    constructor
    · rintro ⟨u, v, front, back, one, others, whole, rfl⟩
      obtain ⟨s, w, _, more, separator, onward, rfl, rfl⟩ := takes_append.1 others
      obtain ⟨rfl, rfl⟩ := takes_separator.1 separator
      have notU := notMem_of_takes (avoid column List.mem_cons_self) one
      obtain ⟨rfl, rfl⟩ :=
        Text.append_cons_inj_of_notMem (clear field List.mem_cons_self) notU whole
      obtain ⟨middle, back, two, three, rfl⟩ := ih.1 onward
      exact ⟨front ++ middle, back, ⟨front, middle, one, two, rfl⟩, three, by simp⟩
    · rintro ⟨_, back, ⟨first, more, one, two, rfl⟩, three, rfl⟩
      refine ⟨field, _, first, more ++ back, one, ?_, rfl, by simp⟩
      exact takes_append.2 ⟨[c], _, [], _, takes_separator.2 ⟨rfl, rfl⟩,
        ih.2 ⟨more, back, two, three, rfl⟩, rfl, rfl⟩

/-! ### Filled columns -/

theorem takes_captured {group : Nat} {p : Pattern} {w : List Char} {caught : Captures} :
    Takes [.captured group p] w caught ↔ w ∈ p.language ∧ caught = [(group, w)] :=
  takes_singleton

theorem takes_passed {p : Pattern} {w : List Char} {caught : Captures} :
    Takes [.passed p] w caught ↔ w ∈ p.language ∧ caught = [] :=
  takes_singleton

theorem takes_optional {group : Nat} {p : Pattern} {w : List Char} {caught : Captures}
    (nonempty : w ≠ []) :
    Takes [.optional group p] w caught ↔ w ∈ p.language ∧ caught = [(group, w)] :=
  takes_singleton.trans (or_iff_right fun nothing => nonempty nothing.1)

/-- Columns with fields that each can be taken in one way only, and what they capture. -/
inductive Filled : List Form → List (List Char) → List Captures → Prop where
  | nil : Filled [] [] []
  | cons {column : Form} {field : List Char} {own : Captures} {columns : List Form}
      {fields : List (List Char)} {owns : List Captures}
      (here : ∀ caught, column.Takes field caught ↔ caught = own)
        (rest : Filled columns fields owns) :
      Filled (column :: columns) (field :: fields) (own :: owns)

variable {columns : List Form} {fields : List (List Char)} {owns : List Captures}

theorem Filled.length_eq (filled : Filled columns fields owns) :
    fields.length = columns.length := by
  induction filled with
  | nil => rfl
  | cons _ _ ih => exact congrArg (· + 1) ih

theorem Filled.columns_iff (filled : Filled columns fields owns) {caught : Captures} :
    Columns columns fields caught ↔ caught = owns.flatten := by
  induction filled generalizing caught with
  | nil => exact Iff.rfl
  | cons here _ ih =>
    simp only [Columns, here, ih, List.flatten_cons]
    exact ⟨fun ⟨_, _, one, others, whole⟩ => by rw [whole, one, others],
      fun whole => ⟨_, _, rfl, rfl, whole⟩⟩

theorem Filled.notMem (filled : Filled columns fields owns) {c : Char}
    (avoid : ∀ column ∈ columns, ∀ part ∈ column, part.inner.avoids c = true) :
    ∀ field ∈ fields, c ∉ field := by
  induction filled with
  | nil => exact fun field mem => absurd mem List.not_mem_nil
  | cons here _ ih =>
    obtain ⟨one, others⟩ := List.forall_mem_cons.1 avoid
    exact List.forall_mem_cons.2 ⟨notMem_of_takes one ((here _).2 rfl), ih others⟩

/-- Fields that fill their columns are taken in one way, up to what follows them. -/
theorem Filled.takes_iff (filled : Filled columns fields owns) {c : Char}
    (avoid : ∀ column ∈ columns, ∀ part ∈ column, part.inner.avoids c = true) {last : Form}
    {rest : List Char} {caught : Captures} :
    Takes (separated c columns ++ last) (fields.flatMap (· ++ [c]) ++ rest) caught ↔
      ∃ back, last.Takes rest back ∧ caught = owns.flatten ++ back := by
  rw [takes_separated_append avoid (filled.notMem avoid) filled.length_eq]
  constructor
  · rintro ⟨front, back, inColumns, inLast, rfl⟩
    rw [filled.columns_iff.1 inColumns]
    exact ⟨back, inLast, rfl⟩
  · rintro ⟨back, inLast, rfl⟩
    exact ⟨_, back, filled.columns_iff.2 rfl, inLast, rfl⟩

end Form

end TrackerGateway.Pattern
