import TrackerGateway.Proofs.Pattern.Alike
import TrackerGateway.Proofs.Pattern.Places
import TrackerGateway.Proofs.Text.Integers

/-!
# Runs of a unit, written with a count

A text that writes a unit several times and one that writes it once with the number of times are
read abreast (`Abreast`): up to a run the signs in front are the same, a run is many parts on one
side and one on the other, and both lead the same ways (`sign_or_run`, `readsAlike`). So the
patterns match the same texts (`Counted.exists_compiled`). A repetition must not follow the run,
which it would repeat as a whole.
-/

namespace TrackerGateway.Pattern.Source

open Text (Stops stops_cons takeWhile_of_stops dropWhile_of_stops)

open Reading

variable {flags : Flags} {groupCount : Nat} {names : List String}

/-! ### Units -/

/-- A text that is one part wherever it stands. -/
structure IsUnit (unit : List Char) : Prop where
  long : 2 ≤ unit.length
  isPart : ∀ flags : Flags, flags.spaced = false → ∃ p, ∀ rest groupCount names,
    sign? flags ⟨unit ++ rest, groupCount, names⟩ = some (.part p, ⟨rest, groupCount, names⟩)

/-- An escape of a letter for a class is a unit. -/
theorem isUnit_digit : IsUnit ['\\', 'd'] where
  long := Nat.le_refl 2
  isPart flags _ := ⟨.char (if flags.unicode then .digit else .range '0' '9'), fun _ _ _ => rfl⟩

/-- A class in brackets is a unit. -/
theorem isUnit_class (inner : List Char) (known : ∀ flags : Flags, flags.spaced = false →
    ∃ s, class? flags (inner ++ [']']) = some (s, [])) : IsUnit ('[' :: (inner ++ [']'])) where
  long := by simp
  isPart flags plain := by
    obtain ⟨s, found⟩ := known flags plain
    obtain ⟨taken, shape, again⟩ := exists_of_class? plain found
    have same : taken = inner := (List.append_cancel_right shape).symm
    refine ⟨.char s, fun rest groupCount names => ?_⟩
    rw [List.cons_append, sign?_cons flags (by decide), plainSign?, List.append_assoc,
      List.singleton_append, ← same, again rest]
    rfl

theorem isUnit_hexDigit : IsUnit "[0-9a-fA-F]".toList := by
  refine isUnit_class "0-9a-fA-F".toList ?_
  rintro ⟨caseless, multiLine, dotAll, swapGreed, unicode, spaced, anyLine⟩ plain
  cases plain
  cases unicode <;> exact ⟨_, rfl⟩

/-- A unit so often. -/
def copies (unit : List Char) (n : Nat) : List Char := (List.replicate n unit).flatten

theorem copies_succ (unit : List Char) (n : Nat) : copies unit (n + 1) = unit ++ copies unit n :=
  rfl

/-- A unit with a count. -/
def counted (unit : List Char) (n : Nat) : List Char :=
  unit ++ '\x7b' :: Nat.toDigits 10 n ++ ['\x7d']

theorem IsUnit.reaches_copies {unit : List Char} (isUnit : IsUnit unit) (n : Nat)
    (rest : List Char) : Reaches (copies unit n ++ rest) rest := by
  obtain ⟨p, isPart⟩ := isUnit.isPart .initial rfl
  induction n with
  | zero => exact .here rest
  | succ n ih =>
    refine .sign ?_ ih
    rw [copies_succ, List.append_assoc, behind?, isPart]
    rfl

/-- A text is written like another, with a count for some runs of a unit. -/
inductive Counted : List Char → List Char → Prop where
  | same (text : List Char) : Counted text text
  | run {unit front brief long : List Char} {n : Nat} (isUnit : IsUnit unit) (many : 1 < n)
    (few : n < Nat.pow 2 32)
      (starts : Reaches (front ++ (copies unit n ++ long)) (copies unit n ++ long))
    (apart : Stops isRepetition long) (onward : Counted brief long) :
    Counted (front ++ (counted unit n ++ brief)) (front ++ (copies unit n ++ long))

/-- A run is in front, with its count in one text and written out in the other. -/
inductive AtRun : List Char → List Char → Prop where
  | intro {unit brief long : List Char} {n : Nat} (isUnit : IsUnit unit) (many : 1 < n)
    (few : n < Nat.pow 2 32) (apart : Stops isRepetition long) (onward : Counted brief long) :
    AtRun (counted unit n ++ brief) (copies unit n ++ long)

namespace Counted

variable {brief long : List Char}

theorem sameAhead (counted : Counted brief long) : SameAhead brief long := by
  cases counted with
  | same => exact .of_take_eq rfl
  | @run unit front brief long n isUnit many =>
    refine SameAhead.append (.of_take_eq ?_) front
    obtain ⟨n, rfl⟩ := Nat.exists_eq_succ_of_ne_zero (Nat.ne_of_gt (Nat.zero_lt_of_lt many))
    rw [copies_succ, Source.counted]
    simp only [List.append_assoc]
    rw [List.take_append_of_le_length isUnit.long, List.take_append_of_le_length isUnit.long]

theorem eq_nil (counted : Counted brief []) : brief = [] :=
  List.head?_eq_none_iff.1 counted.sameAhead.1

/-- The signs in front are the same, or a run is in front. -/
theorem sign_or_run (plain : flags.spaced = false) (counted : Counted brief long) {sign : Sign}
    {next : Cursor} (found : sign? flags ⟨long, groupCount, names⟩ = some (sign, next)) :
    (∃ rest, sign? flags ⟨brief, groupCount, names⟩ = some (sign, { next with rest }) ∧
      Counted rest next.rest) ∨ AtRun brief long := by
  cases counted with
  | same => exact .inl ⟨next.rest, found, .same _⟩
  | @run unit front less more n isUnit many few starts apart onward =>
    generalize shape : front ++ (copies unit n ++ more) = long at starts found
    cases starts with
    | here =>
      obtain rfl : front = [] := List.append_left_eq_self.1 shape
      exact .inr (.intro isUnit many few apart onward)
    | sign first onwards =>
      -- the sign ends before the run, so it is the same with the count in the place of the copies
      left
      rw [behind?_of_sign? plain found, Option.some.injEq] at first
      obtain ⟨c, taken, rfl, again⟩ := exists_of_sign? plain found
      rw [← first] at onwards
      obtain ⟨between, behind, -⟩ := onwards.exists_front
      obtain rfl : front = c :: (taken ++ between) := by
        refine (List.append_left_inj (copies unit n ++ more)).1 (shape.trans ?_)
        rw [behind, List.cons_append, List.append_assoc]
      have rests : Counted (between ++ (Source.counted unit n ++ less)) next.rest := by
        rw [behind] at onwards ⊢
        exact .run isUnit many few onwards apart onward
      refine ⟨_, ?_, rests⟩
      rw [← again _ rests.sameAhead, List.cons_append, List.append_assoc]

end Counted

/-! ### Reading a run -/

theorem count?_toDigits (plain : flags.spaced = false) {n : Nat} (few : n < Nat.pow 2 32)
    (rest : List Char) :
    count? flags (Nat.toDigits 10 n ++ '\x7d' :: rest) = some (n, '\x7d' :: rest) := by
  have digits := (Text.Integer.valueAfter_toDigits n).1
  have ascii : ∀ c ∈ Nat.toDigits 10 n, Text.isAsciiDigit c = true := fun c mem =>
    Decimal.isAsciiDigit_of_isDigit (digits c mem)
  have value : (Nat.toDigits 10 n).foldl (fun n c => 10 * n + (c.toNat - 48)) 0 = n :=
    Nat.ofDigitChars_toDigits (by decide) (by decide)
  have noBlank : Stops Text.isBlank (Nat.toDigits 10 n ++ '\x7d' :: rest) := by
    intro c first
    rw [List.head?_append_of_ne_nil _ Nat.toDigits_ne_nil] at first
    exact Text.Numeral.isBlank_of_isDigit (digits c (List.mem_of_head? first))
  have noMore : Stops Text.isBlank ('\x7d' :: rest) := stops_cons (by decide) rest
  have onlyDigits : Stops Text.isAsciiDigit ('\x7d' :: rest) := stops_cons (by decide) rest
  have front : ([] ++ (Nat.toDigits 10 n ++ '\x7d' :: rest)).dropWhile Text.isBlank = _ :=
    dropWhile_of_stops (List.forall_mem_nil _) noBlank
  have back : ([] ++ '\x7d' :: rest).dropWhile Text.isBlank = _ :=
    dropWhile_of_stops (List.forall_mem_nil _) noMore
  rw [List.nil_append] at front back
  simp only [count?, skip_of_plain plain, front, takeWhile_of_stops ascii onlyDigits,
    List.drop_left, back, value]
  exact if_neg (by simp [Nat.toDigits_ne_nil, few])

/-- A count behind a unit is a repetition that is not lazy. -/
theorem sign?_count (plain : flags.spaced = false) {n : Nat} (few : n < Nat.pow 2 32)
    {rest : List Char} (apart : Stops isRepetition rest) :
    sign? flags ⟨'\x7b' :: (Nat.toDigits 10 n ++ '\x7d' :: rest), groupCount, names⟩ =
      some (.repetition n (some n) false, ⟨rest, groupCount, names⟩) := by
  have eager : rest.head? ≠ some '?' := fun first => absurd (apart '?' first) (by decide)
  have counts : counts? flags (Nat.toDigits 10 n ++ '\x7d' :: rest) = some ((n, some n), rest) := by
    rw [counts?, count?_toDigits plain few]
    rfl
  rw [sign?_cons flags (by decide), plainSign?, counts]
  simp only [Option.map_some, skip_of_plain plain, repetition, laziness_of_head eager]

theorem repeated_eq_times (p : Pattern) {n : Nat} (many : 1 < n) (greedy : Bool) :
    repeated p n (some n) greedy = .times p n := by
  obtain ⟨n, rfl⟩ := Nat.exists_eq_add_of_lt many
  unfold repeated
  split <;> simp_all

/-- Reading on takes the sign in front. -/
theorem alternatives?_of_sign? {fuel depth : Nat} (plain : flags.spaced = false) (reading : Reading)
    {cs : List Char} {sign : Sign} {next : Cursor}
    (found : sign? flags ⟨cs, groupCount, names⟩ = some (sign, next)) :
    alternatives? (fuel + 1) depth flags reading ⟨cs, groupCount, names⟩ =
      follow? fuel depth flags reading sign next := by
  cases cs with
  | nil => cases found
  | cons c cs =>
    rw [alternatives?_cons fuel depth plain, found]
    rfl

/-- A run that is counted adds the unit so often. -/
theorem alternatives?_counted {fuel depth : Nat} (plain : flags.spaced = false)
    (reading : Reading) {unit rest : List Char} {p : Pattern} {n : Nat} (many : 1 < n)
    (few : n < Nat.pow 2 32) (isPart : ∀ rest, sign? flags ⟨unit ++ rest, groupCount, names⟩ =
      some (.part p, ⟨rest, groupCount, names⟩))
    (apart : Stops isRepetition rest) :
    alternatives? (fuel + 2) depth flags reading ⟨counted unit n ++ rest, groupCount, names⟩ =
      alternatives? fuel depth flags (reading.add (some (.times p n)))
          ⟨rest, groupCount, names⟩ := by
  have whole : counted unit n ++ rest =
      unit ++ '\x7b' :: (Nat.toDigits 10 n ++ '\x7d' :: rest) := by
    simp [counted]
  rw [whole, alternatives?_of_sign? plain reading (isPart _), follow?,
    alternatives?_of_sign? plain _ (sign?_count plain few apart), follow?, Reading.repeat?,
    Reading.add]
  simp only [repeated_eq_times p many, Option.bind_some]
  rfl

/-- A run that is written out adds the unit as often. -/
theorem exists_of_copies {depth : Nat} (plain : flags.spaced = false) {unit rest : List Char}
    {p : Pattern} (isPart : ∀ rest, sign? flags ⟨unit ++ rest, groupCount, names⟩ =
      some (.part p, ⟨rest, groupCount, names⟩))
    {fuel : Nat} {reading : Reading} {n : Nat} {result : Pattern × Cursor}
    (found : alternatives? fuel depth flags reading ⟨copies unit n ++ rest, groupCount, names⟩ =
      some result) :
    ∃ less, less + n = fuel ∧
      alternatives? less depth flags (reading.addRun p n) ⟨rest, groupCount, names⟩ =
          some result := by
  induction n generalizing fuel reading with
  | zero => exact ⟨fuel, rfl, found⟩
  | succ n ih =>
    cases fuel with
    | zero => cases found
    | succ fuel =>
      rw [copies_succ, List.append_assoc, alternatives?_of_sign? plain reading (isPart _),
        follow?] at found
      obtain ⟨less, rfl, onward⟩ := ih found
      rw [Reading.add_addRun] at onward
      exact ⟨less, rfl, onward⟩

/-! ### Reading on abreast -/

/-- Two readings stand at texts of which one counts runs that the other writes out. -/
structure Abreast (r s : Reading) (brief long : List Char) : Prop where
  alike : r.Alike s
  counted : Counted brief long
  last : Stops isRepetition long ∨ r.SameLast s
  noBlanks : 'x' ∉ long

/-- With enough fuel a reading ends like another, and no further than that. -/
def EndsAlike (read : Nat → Option (Pattern × Cursor)) (brief : List Char)
    (ending : Pattern × Cursor) : Prop :=
  ∃ p rest, (∀ fuel, brief.length < fuel → read fuel = some (p, { ending.2 with rest })) ∧
  p.way = ending.1.way ∧
    Counted rest ending.2.rest ∧ 'x' ∉ ending.2.rest ∧ rest.length ≤ brief.length

theorem EndsAlike.imp {read read' : Nat → Option (Pattern × Cursor)} {less brief : List Char}
    {ending : Pattern × Cursor} (ends : EndsAlike read less ending)
    (shorter : less.length ≤ brief.length)
    (same : ∀ fuel, brief.length < fuel → ∃ k, less.length < k ∧ read' fuel = read k) :
    EndsAlike read' brief ending := by
  obtain ⟨p, rest, reads, sameWays, counted, noBlanks, short⟩ := ends
  refine ⟨p, rest, fun fuel more => ?_, sameWays, counted, noBlanks, Nat.le_trans short shorter⟩
  obtain ⟨k, enough, step⟩ := same fuel more
  rw [step, reads k enough]

/-- What is read of a text that writes runs out with so much fuel is read with counts too. -/
def ReadsAlike (fuel : Nat) : Prop :=
  ∀ ⦃depth : Nat⦄ ⦃flags : Flags⦄ ⦃groupCount : Nat⦄ ⦃names : List String⦄ ⦃r s : Reading⦄
    ⦃brief long : List Char⦄ ⦃ending : Pattern × Cursor⦄,
    flags.spaced = false → Abreast r s brief long →
      alternatives? fuel depth flags s ⟨long, groupCount, names⟩ = some ending →
        EndsAlike (fun fuel => alternatives? fuel depth flags r ⟨brief, groupCount, names⟩)
          brief ending

/-- What a sign says is done abreast. -/
theorem ReadsAlike.follow {fuel depth : Nat} (readsAlike : ReadsAlike fuel)
    (plain : flags.spaced = false) {r s : Reading} {sign : Sign} {brief long : List Char}
    (isPlain : sign.IsPlain) (alike : r.Alike s) (counted : Counted brief long)
    (noBlanks : 'x' ∉ long)
    (last : (∃ least most isLazy, sign = .repetition least most isLazy) → r.SameLast s)
    {ending : Pattern × Cursor}
    (found : follow? fuel depth flags s sign ⟨long, groupCount, names⟩ = some ending) :
    EndsAlike (fun fuel => follow? fuel depth flags r sign ⟨brief, groupCount, names⟩) brief
        ending := by
  cases sign with
  | close =>
    rw [follow?] at found
    split at found
    case isTrue => cases found
    case isFalse inside =>
      cases found
      exact ⟨r.pattern, brief, fun _ _ => if_neg inside, alike.pattern, counted, noBlanks,
        Nat.le_refl _⟩
  | bar => exact readsAlike plain ⟨alike.next, counted, .inr (sameLast_next r s), noBlanks⟩ found
  | part p =>
    exact readsAlike plain ⟨alike.add rfl, counted, .inr (alike.sameLast rfl), noBlanks⟩ found
  | flags inner =>
    exact readsAlike isPlain ⟨alike.add_none, counted, .inr (sameLast_add_none r s), noBlanks⟩
      found
  | repetition least most isLazy =>
    obtain ⟨t, repeats, found⟩ := Option.bind_eq_some_iff.1 found
    obtain ⟨u, repeats', alike', last'⟩ := (last ⟨_, _, _, rfl⟩).repeat?
      (fun same => way_repeated_congr same least most (isLazy == flags.swapGreed)) repeats
    refine (readsAlike plain ⟨alike', counted, .inr last', noBlanks⟩ found).imp
        (Nat.le_refl _) fun fuel more =>
      ⟨fuel, more, ?_⟩
    rw [follow?, repeats']
    rfl
  | group inner isNumbered =>
    obtain ⟨⟨q, closed⟩, inside, found⟩ := Option.bind_eq_some_iff.1 found
    obtain ⟨p, rest, reads, same, onward, noMoreBlanks, shorter⟩ :=
      readsAlike isPlain ⟨.refl .start, counted, .inr sameLast_start, noBlanks⟩ inside
    -- the group is one part behind it, which a repetition may follow
    have sameGroup : (if isNumbered then group (groupCount - 1) p else p).way =
        (if isNumbered then group (groupCount - 1) q else q).way := by
      split
      · exact way_group_congr same _
      · exact same
    have abreast : Abreast _ _ rest closed.rest :=
      ⟨alike.add sameGroup, onward, .inr (alike.sameLast sameGroup), noMoreBlanks⟩
    refine (readsAlike plain abreast found).imp shorter fun fuel more =>
      ⟨fuel, Nat.lt_of_le_of_lt shorter more, ?_⟩
    have inside := reads fuel more
    dsimp only at inside
    rw [follow?, inside]
    rfl

/-- A sign that is in front of both texts is taken off both. -/
theorem ReadsAlike.sign {fuel depth : Nat} (readsAlike : ReadsAlike fuel)
    (plain : flags.spaced = false) {r s : Reading} {brief long rest : List Char}
    (abreast : Abreast r s brief long) {sign : Sign} {next : Cursor}
    (first : sign? flags ⟨long, groupCount, names⟩ = some (sign, next))
    (first' : sign? flags ⟨brief, groupCount, names⟩ = some (sign, { next with rest }))
    (onward : Counted rest next.rest) {ending : Pattern × Cursor}
    (found : follow? fuel depth flags s sign next = some ending) :
    EndsAlike (fun fuel => alternatives? fuel depth flags r ⟨brief, groupCount, names⟩) brief
        ending := by
  have isPlain := isPlain_of_sign? plain abreast.noBlanks first
  have last : (∃ least most isLazy, sign = .repetition least most isLazy) → r.SameLast s := by
    rintro ⟨least, most, isLazy, rfl⟩
    exact abreast.last.resolve_left (not_stops_of_repetition first)
  obtain ⟨_, taken, shape, -⟩ := exists_of_sign? plain first
  obtain ⟨_, taken', rfl, -⟩ := exists_of_sign? plain first'
  have noMoreBlanks : 'x' ∉ next.rest := fun mem => abreast.noBlanks (by rw [shape]; simp [mem])
  refine (readsAlike.follow plain isPlain abreast.alike onward noMoreBlanks last found).imp ?_
    fun fuel more => ?_
  · simp only [List.length_cons, List.length_append]
    omega
  · obtain ⟨fuel, rfl⟩ := Nat.exists_eq_succ_of_ne_zero (Nat.ne_of_gt (Nat.zero_lt_of_lt more))
    simp only [List.length_cons, List.length_append] at more
    exact ⟨fuel, by omega, alternatives?_of_sign? plain r first'⟩

/-- A run that is in front of both texts is read as parts of one, and as one part of the other. -/
theorem endsAlike_of_atRun {fuel depth : Nat} (readsAlike : ∀ less < fuel, ReadsAlike less)
    (plain : flags.spaced = false) {r s : Reading} {brief long : List Char} (alike : r.Alike s)
    (atRun : AtRun brief long) (noBlanks : 'x' ∉ long) {ending : Pattern × Cursor}
    (found : alternatives? fuel depth flags s ⟨long, groupCount, names⟩ = some ending) :
    EndsAlike (fun fuel => alternatives? fuel depth flags r ⟨brief, groupCount, names⟩) brief
        ending := by
  obtain @⟨unit, less, more, n, isUnit, many, few, apart, onward⟩ := atRun
  obtain ⟨p, isPart⟩ := isUnit.isPart flags plain
  obtain ⟨left, enough, reads⟩ :=
    exists_of_copies plain (fun rest => isPart rest groupCount names) found
  have noMoreBlanks : 'x' ∉ more := fun mem => noBlanks (List.mem_append_right _ mem)
  have apart' : Stops isRepetition less := apart.congr onward.sameAhead.1
  have long := isUnit.long
  refine (readsAlike left (by omega) plain ⟨alike.addRun p n, onward, .inl apart, noMoreBlanks⟩
    reads).imp ?_
    fun fuel more => ?_
  · simp only [List.length_append]
    omega
  · simp only [Source.counted, List.length_append, List.length_cons] at more
    obtain ⟨fuel, rfl⟩ := Nat.exists_eq_add_of_le' (show 2 ≤ fuel by omega)
    refine ⟨fuel, by omega, ?_⟩
    exact alternatives?_counted plain r many few (fun rest => isPart rest groupCount names) apart'

/-- What is read of a text that writes runs out is read of one that counts them. -/
theorem readsAlike (fuel : Nat) : ReadsAlike fuel := by
  -- a run takes as much fuel as it has units, so the induction is on all lesser amounts
  induction fuel using Nat.strong_induction_on with
  | h fuel ih =>
  intro depth flags groupCount names r s brief long ending plain abreast found
  cases fuel with
  | zero => cases found
  | succ fuel =>
  cases long with
  | nil =>
    obtain rfl := abreast.counted.eq_nil
    rw [alternatives?_nil fuel depth plain] at found
    split at found
    case isFalse => cases found
    case isTrue outside =>
      cases found
      refine ⟨r.pattern, [], fun fuel more => ?_, abreast.alike.pattern, .same [],
        abreast.noBlanks, Nat.le_refl _⟩
      obtain ⟨fuel, rfl⟩ := Nat.exists_eq_succ_of_ne_zero (Nat.ne_of_gt more)
      exact (alternatives?_nil fuel depth plain r groupCount names).trans (if_pos outside)
  | cons c long =>
    have reads := found
    rw [alternatives?_cons fuel depth plain] at reads
    obtain ⟨⟨sign, next⟩, first, reads⟩ := Option.bind_eq_some_iff.1 reads
    rcases abreast.counted.sign_or_run plain first with ⟨rest, first', onward⟩ | atRun
    · exact (ih fuel (Nat.lt_succ_self _)).sign plain abreast first first' onward reads
    · exact endsAlike_of_atRun ih plain abreast.alike atRun abreast.noBlanks found

/-! ### Whole patterns -/

/-- A pattern that counts runs is well formed if it is so with the runs written out, and matches
the same texts. -/
theorem Counted.exists_compiled {brief long : List Char} (counted : Counted brief long)
    (noBlanks : 'x' ∉ long) {p : Compiled} (known : compile? (String.ofList long) = some p) :
    ∃ q, compile? (String.ofList brief) = some q ∧
      ∀ text, (q.match? text).isSome = true ↔ (p.match? text).isSome = true := by
  obtain ⟨⟨pattern, behind⟩, read, rfl⟩ := Option.map_eq_some_iff.1 known
  rw [String.toList_ofList] at read
  obtain ⟨other, rest, reads, same, -⟩ :=
    readsAlike _ rfl ⟨.refl .start, counted, .inr sameLast_start, noBlanks⟩ read
  refine ⟨⟨other, other.groupCount⟩, ?_, fun text => ?_⟩
  · have inside := reads _ (Nat.lt_succ_self _)
    dsimp only at inside
    rw [compile?, String.toList_ofList, inside]
    rfl
  · rw [Compiled.isSome_match?_iff, Compiled.isSome_match?_iff, same]

end TrackerGateway.Pattern.Source
