import TrackerGateway.Proofs.Text.Integers
import TrackerGateway.Proofs.Time.Days

/-!
# Dates and times of day in the fields of a sentence

Six fields are read in an order of their parts, whatever they hold (`Fields.dateTime?_run`). They
tell an instant just if each of them holds an integer and the integers name a date of the calendar
and a time of day; it is the instant that shows them then (`TimeOrder.told_eq_some_iff`,
`TimeOrder.told_eq_none_iff`). An instant whose year two digits can stand for is told by its own
digits (`TimeOrder.told_digitsOf`).
-/

namespace TrackerGateway.Sentence

open Text (Numeral)

/-- The parts of a date and a time of day. -/
inductive TimePart where
  | year
  | month
  | day
  | hour
  | minute
  | second
  deriving DecidableEq, Repr

/-- The parts in an order. -/
def TimeOrder.parts : TimeOrder → List TimePart
  | .hmsDmy => [.hour, .minute, .second, .day, .month, .year]
  | .hmsYmd => [.hour, .minute, .second, .year, .month, .day]
  | .dmyHms => [.day, .month, .year, .hour, .minute, .second]
  | .ymdHms => [.year, .month, .day, .hour, .minute, .second]

/-! ### Integers in fields -/

/-- An integer of 32 bits is in a field, with blanks around it or not. -/
def HoldsInt (field : Option String) (k : Int) : Prop :=
  ∃ text, field = some text ∧ Text.Integer.Written 10 (Text.trim text).toList k ∧ -2 ^ 31 ≤ k ∧
    k < 2 ^ 31

/-- What is read as an integer in the field that is taken; an empty one holds none. -/
theorem intOf_filter_eq_some_iff {field : Option String} {k : Int} :
    intOf (field.filter (! ·.isEmpty)) = some k ↔ HoldsInt field k := by
  have range : (Text.Integer.Range.signed 32).holds k = true ↔ -2 ^ 31 ≤ k ∧ k < 2 ^ 31 := by
    rw [Text.Integer.holds_iff]
    exact and_congr_right fun _ => Int.le_sub_one_iff
  cases field with
  | none => simp [intOf, HoldsInt]
  | some text =>
    have read : intOf (some text) = some k ↔ HoldsInt (some text) k := by
      rw [intOf, Option.bind_some, Text.Integer.decimal?_eq_some_iff (by decide) (by decide), range]
      simp [HoldsInt]
    by_cases empty : text = ""
    · subst empty
      have none : intOf (some "") = none := by decide +kernel
      rw [none] at read
      rw [← read]
      rfl
    · rw [Option.filter_some_pos (by simpa using empty), read]

theorem HoldsInt.unique {field : Option String} {k l : Int} (held : HoldsInt field k)
    (other : HoldsInt field l) : k = l := by
  rw [← intOf_filter_eq_some_iff] at held other
  exact Option.some.inj (held.symm.trans other)

/-- A number below a hundred is written in two digits, which stand for it. -/
theorem padded_two {n : Nat} (small : n < 100) :
    (Instant.padded 2 n).length = 2 ∧
    (∀ c ∈ Instant.padded 2 n, (Text.Integer.digit? 10 c).isSome = true) ∧
      Text.Integer.valueAfter 10 0 (Instant.padded 2 n) = n := by
  have counted : ∀ n < 100, (Instant.padded 2 n).length = 2 ∧
      (Instant.padded 2 n).all (fun c => (Text.Integer.digit? 10 c).isSome) = true ∧
        Text.Integer.valueAfter 10 0 (Instant.padded 2 n) = n := by
    decide +kernel
  obtain ⟨length, isDigit, value⟩ := counted n small
  exact ⟨length, List.all_eq_true.1 isDigit, value⟩

theorem intOf_padded {n : Nat} (small : n < 100) :
    intOf (some (String.ofList (Instant.padded 2 n))) = some (n : Int) := by
  obtain ⟨length, isDigit, value⟩ := padded_two small
  have nonempty : Instant.padded 2 n ≠ [] := by
    rintro empty
    simp [empty] at length
  have read := intOf_numeral (n := ⟨Instant.padded 2 n, nonempty, isDigit⟩) (by
    rw [Numeral.value, value]
    omega)
  rw [Numeral.value, value] at read
  exact read

/-- Two digits hold the number that they are written for. -/
theorem holdsInt_padded {n : Nat} (small : n < 100) :
    HoldsInt (some (String.ofList (Instant.padded 2 n))) n := by
  have full : String.ofList (Instant.padded 2 n) ≠ "" := by
    intro empty
    have length := (padded_two small).1
    rw [String.ofList_eq_empty_iff.1 empty] at length
    cases length
  rw [← intOf_filter_eq_some_iff, Option.filter_some_pos (by simpa using full), intOf_padded small]

/-! ### What six integers name -/

/-- Integers name a date: one of the calendar in the years that are supported, the year by its
pivot. -/
structure NamesDate (numbers : TimePart → Int) (date : Date) : Prop where
  isReal : date.isReal = true
  year : date.year = expandYear (numbers .year)
  month : (date.month : Int) = numbers .month
  day : (date.day : Int) = numbers .day
  supported : Date.firstYear ≤ date.year ∧ date.year ≤ Date.lastYear

/-- Integers name a time of day. -/
structure NamesClock (numbers : TimePart → Int) (hour minute second : Nat) : Prop where
  hour_lt : hour < 24
  minute_lt : minute < 60
  second_lt : second < 60
  hour_eq : (hour : Int) = numbers .hour
  minute_eq : (minute : Int) = numbers .minute
  second_eq : (second : Int) = numbers .second

theorem natOf?_eq_some_iff {k : Int} {n : Nat} : natOf? k = some n ↔ (n : Int) = k := by
  unfold natOf?
  split <;> simp <;> omega

/-- An instant comes of six integers just if they name the date and the time of day that it
shows. -/
theorem instantOf?_eq_some_iff {numbers : TimePart → Int} {t : Instant} :
    instantOf? (numbers .year) (numbers .month) (numbers .day) (numbers .hour) (numbers .minute)
        (numbers .second) = some t ↔
      ∃ date hour minute second, NamesDate numbers date ∧ NamesClock numbers hour minute second ∧
        t.Shows date hour minute second := by
  simp only [instantOf?, Option.bind_eq_bind, Option.bind_eq_some_iff, natOf?_eq_some_iff,
    Instant.ofFields?_eq_some_iff]
  constructor
  · rintro ⟨month, inMonth, day, inDay, hour, inHour, minute, inMinute, second, inSecond, shown,
      supported⟩
    exact ⟨_, hour, minute, second, ⟨shown.isReal, rfl, inMonth, inDay, supported⟩,
      ⟨shown.hour_lt, shown.minute_lt, shown.second_lt, inHour, inMinute, inSecond⟩, shown⟩
  · rintro ⟨⟨year, month, day⟩, hour, minute, second, named, clock, shown⟩
    obtain rfl : year = expandYear (numbers .year) := named.year
    exact ⟨month, named.month, day, named.day, hour, clock.hour_eq, minute, clock.minute_eq, second,
      clock.second_eq, shown, named.supported⟩

/-- A date and a time of day that are named make an instant. -/
theorem exists_shows_of_names {numbers : TimePart → Int} {date : Date} {hour minute second : Nat}
    (named : NamesDate numbers date) (clock : NamesClock numbers hour minute second) :
    ∃ t : Instant, t.Shows date hour minute second :=
  ⟨_, Instant.shows_iff.2 ⟨named.isReal, clock.hour_lt, clock.minute_lt, clock.second_lt, rfl⟩⟩

/-! ### Six fields -/

/-- Each part is taken from its own place. -/
theorem TimeOrder.instant?_eq_some_iff (order : TimeOrder) {numbers? : TimePart → Option Int}
    {t : Instant} :
    order.instant? (order.parts.map numbers?) = some t ↔
      ∃ numbers : TimePart → Int, (∀ part, numbers? part = some (numbers part)) ∧
        instantOf? (numbers .year) (numbers .month) (numbers .day) (numbers .hour) (numbers .minute)
          (numbers .second) = some t := by
  constructor
  · intro told
    -- whichever part is missing, its place in the order makes the whole missing
    have whole (part : TimePart) : ∃ k, numbers? part = some k := by
      refine Option.ne_none_iff_exists'.1 fun missing => ?_
      cases order <;> cases part <;> simp [TimeOrder.instant?, TimeOrder.parts, missing] at told
    choose numbers held using whole
    refine ⟨numbers, held, ?_⟩
    rw [show numbers? = fun part => some (numbers part) from funext held] at told
    cases order <;> exact told
  · rintro ⟨numbers, held, told⟩
    rw [show numbers? = fun part => some (numbers part) from funext held]
    cases order <;> exact told

section

variable (order : TimeOrder) (groups : TimePart → Option String)

/-- What six fields tell in an order. -/
def TimeOrder.told : Option Instant :=
  order.instant? (order.parts.map fun part => intOf ((groups part).filter (! ·.isEmpty)))

/-- Six fields are taken, whatever they hold. -/
theorem Fields.dateTime?_run (more : List (Option String)) (total : Nat) :
    Fields.dateTime? order ⟨order.parts.map groups ++ more, total⟩ =
        .ok (order.told groups, ⟨more, total⟩) := by
  cases order <;> rfl

/-- An instant is told if the fields hold integers that name its date and its time of day, and
only then. -/
theorem TimeOrder.told_eq_some_iff {t : Instant} :
    order.told groups = some t ↔
      ∃ numbers date hour minute second, (∀ part, HoldsInt (groups part) (numbers part)) ∧
        NamesDate numbers date ∧ NamesClock numbers hour minute second ∧
            t.Shows date hour minute second := by
  simp only [TimeOrder.told, TimeOrder.instant?_eq_some_iff, intOf_filter_eq_some_iff,
    instantOf?_eq_some_iff]
  constructor
  · rintro ⟨numbers, held, date, hour, minute, second, named⟩
    exact ⟨numbers, date, hour, minute, second, held, named⟩
  · rintro ⟨numbers, date, hour, minute, second, held, named⟩
    exact ⟨numbers, held, date, hour, minute, second, named⟩

/-- No instant is told if a field holds no integer, or no date or no time of day is named, and
only then. -/
theorem TimeOrder.told_eq_none_iff :
    order.told groups = none ↔
      (∃ part, ∀ k, ¬ HoldsInt (groups part) k) ∨
        ∃ numbers, (∀ part, HoldsInt (groups part) (numbers part)) ∧
          ((∀ date, ¬ NamesDate numbers date) ∨ ∀ hour minute second,
              ¬ NamesClock numbers hour minute second) := by
  constructor
  · intro nothing
    by_cases held : ∀ part, ∃ k, HoldsInt (groups part) k
    · choose numbers held using held
      refine .inr ⟨numbers, held, ?_⟩
      by_contra! both
      obtain ⟨⟨date, named⟩, hour, minute, second, clock⟩ := both
      obtain ⟨t, shown⟩ := exists_shows_of_names named clock
      have some := (order.told_eq_some_iff groups).2
        ⟨numbers, date, hour, minute, second, held, named, clock, shown⟩
      rw [nothing] at some
      cases some
    · push Not at held
      exact .inl held
  · intro lacking
    refine Option.eq_none_iff_forall_ne_some.2 fun t some => ?_
    obtain ⟨numbers, date, hour, minute, second, held, named, clock, -⟩ :=
      (order.told_eq_some_iff groups).1 some
    rcases lacking with ⟨part, without⟩ | ⟨others, heldToo, without⟩
    · exact without _ (held part)
    · obtain rfl : others = numbers := funext fun part => (heldToo part).unique (held part)
      rcases without with noDate | noClock
      · exact noDate date named
      · exact noClock hour minute second clock

end

/-- Two digits for each part, the year in its century. -/
def digitsOf (date : Date) (hour minute second : Nat) : TimePart → Option String
  | .year => two (date.year % 100).toNat
  | .month => two date.month
  | .day => two date.day
  | .hour => two hour
  | .minute => two minute
  | .second => two second
where
  /-- A number of two digits. -/
  two (n : Nat) : Option String := some (String.ofList (Instant.padded 2 n))

/-- The year of two digits is the one that is meant. -/
theorem expandYear_emod {year : Int} (first : 1970 ≤ year) (last : year ≤ 2069) :
    expandYear ((year % 100).toNat : Int) = year := by
  rw [expandYear]
  split
  · split <;> omega
  · omega

/-- An instant in the years that two digits stand for is told by its own digits. -/
theorem TimeOrder.told_digitsOf (order : TimeOrder) {t : Instant} {date : Date}
    {hour minute second : Nat} (shown : t.Shows date hour minute second)
    (first : 1970 ≤ date.year) (last : date.year ≤ 2069) :
    order.told (digitsOf date hour minute second) = some t := by
  have ⟨early, before, within⟩ := (⟨shown.hour_lt, shown.minute_lt, shown.second_lt⟩ : _ ∧ _ ∧ _)
  have days := Date.day_lt_of_isReal shown.isReal
  have supported : Date.firstYear ≤ date.year ∧ date.year ≤ Date.lastYear := by
    unfold Date.firstYear Date.lastYear
    omega
  let numbers : TimePart → Int
    | .year => (date.year % 100).toNat
    | .month => date.month
    | .day => date.day
    | .hour => hour
    | .minute => minute
    | .second => second
  refine (order.told_eq_some_iff _).2 ⟨numbers, date, hour, minute, second, fun part => ?_,
    ⟨shown.isReal, (expandYear_emod first last).symm, rfl, rfl, supported⟩,
    ⟨early, before, within, rfl, rfl, rfl⟩, shown⟩
  cases part <;> exact holdsInt_padded (by omega)

/-- A date and a time of day in six fields, in any order.

Whatever the fields hold, six are taken. They tell the instant that shows the date and the time of
day that they name, and none just if a field holds no integer of 32 bits or there is no such date
or time of day. A whole second from 1970 to the end of 2069 is told by the two digits of its
parts. -/
theorem dateTime?_tells (order : TimeOrder) (more : List (Option String)) (total : Nat) :
    (∀ groups : TimePart → Option String,
      ∃ told,
        Fields.dateTime? order ⟨order.parts.map groups ++ more, total⟩ =
          .ok (told, ⟨more, total⟩) ∧
        (∀ t, told = some t ↔
          ∃ numbers date hour minute second, (∀ part, HoldsInt (groups part) (numbers part)) ∧
            NamesDate numbers date ∧ NamesClock numbers hour minute second ∧
              t.Shows date hour minute second) ∧
        (told = none ↔
          (∃ part, ∀ k, ¬ HoldsInt (groups part) k) ∨
            ∃ numbers, (∀ part, HoldsInt (groups part) (numbers part)) ∧
              ((∀ date, ¬ NamesDate numbers date) ∨
                ∀ hour minute second, ¬ NamesClock numbers hour minute second))) ∧
      ∀ t : Instant, t.nanos = 0 → 86400 * (Date.mk 1970 1 1).dayNumber ≤ t.seconds →
        t.seconds < 86400 * (Date.mk 2070 1 1).dayNumber →
          ∃ date hour minute second, t.Shows date hour minute second ∧
            1970 ≤ date.year ∧ date.year ≤ 2069 ∧
            Fields.dateTime? order
                ⟨order.parts.map (digitsOf date hour minute second) ++ more, total⟩ =
              .ok (some t, ⟨more, total⟩) := by
  refine ⟨fun groups => ⟨order.told groups, Fields.dateTime?_run order groups more total,
    fun t => order.told_eq_some_iff groups, order.told_eq_none_iff groups⟩,
      fun t whole behind before => ?_⟩
  have first : (Date.mk 1970 1 1).dayNumber = 0 := by decide
  have span : (Date.mk 2070 1 1).dayNumber = 36525 := by decide
  obtain ⟨date, hour, minute, second, shown⟩ := Instant.exists_shows whole (by omega)
  have number : date.dayNumber = t.seconds / 86400 :=
    (Date.daysFromEpoch_iff shown.isReal).1 shown.day
  obtain ⟨early, late⟩ : 1970 ≤ date.year ∧ date.year ≤ 2069 :=
    Date.year_mem_of_dayNumber shown.isReal (by omega)
      (by rw [number]; simp only [Int.reduceAdd]; omega)
  refine ⟨date, hour, minute, second, shown, early, late, ?_⟩
  rw [Fields.dateTime?_run, order.told_digitsOf shown early late]

theorem dateTime?_tells_dmyHms :
    let t : Instant := ⟨1398174412, 0⟩
    t.nanos = 0 ∧ 86400 * (Date.mk 1970 1 1).dayNumber ≤ t.seconds ∧
      t.seconds < 86400 * (Date.mk 2070 1 1).dayNumber ∧
        ∃ date hour minute second, t.Shows date hour minute second ∧
          1970 ≤ date.year ∧ date.year ≤ 2069 ∧
          Fields.dateTime? .dmyHms
              ⟨TimeOrder.dmyHms.parts.map (digitsOf date hour minute second) ++ [some "A"], 7⟩ =
            .ok (some t, ⟨[some "A"], 7⟩) :=
  ⟨rfl, by decide, by decide, (dateTime?_tells .dmyHms [some "A"] 7).2
    ⟨1398174412, 0⟩ rfl (by decide) (by decide)⟩

end TrackerGateway.Sentence
