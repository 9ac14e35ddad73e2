import Mathlib.Logic.Function.Iterate
import Mathlib.Tactic.Tauto
import TrackerGateway.Time.Instant

/-!
# Days of the calendar, one behind the other

`Date.next` is the day behind a date, by the lengths of the months alone. Numbers of days go with
it: the next day has the next number (`dayNumber_next`), and no two dates that exist have the same
one (`eq_of_dayNumber_eq`). So the number of a date is how often one goes a day on from 1970-01-01
to reach it, or from it to reach 1970-01-01 (`daysFromEpoch_iff`), and every number of days is
that of a date.
-/

namespace TrackerGateway

namespace Date

/-- The day the timestamps count from. -/
def epoch : Date := ⟨1970, 1, 1⟩

/-- The day behind a date. -/
def next (date : Date) : Date :=
  if date.day < daysInMonth date.year date.month then { date with day := date.day + 1 }
  else if date.month < 12 then ⟨date.year, date.month + 1, 1⟩
  else ⟨date.year + 1, 1, 1⟩

/-- Whether a date is so many days behind the epoch, or before it where the number is negative. -/
def DaysFromEpoch (date : Date) (days : Int) : Prop :=
  if 0 ≤ days then next^[days.toNat] epoch = date else next^[(-days).toNat] date = epoch

/-! ### Lengths of months and years -/

theorem isReal_iff {date : Date} :
    date.isReal = true ↔ 1 ≤ date.day ∧ date.day ≤ daysInMonth date.year date.month := by
  rw [isReal, Bool.and_eq_true, decide_eq_true_eq, decide_eq_true_eq]

/-- The days of a year before a month. -/
def monthStart (leap : Bool) (month : Nat) : Nat :=
  daysBeforeMonth month + if leap && 2 < month then 1 else 0

theorem dayOfYear_eq (date : Date) :
    date.dayOfYear = monthStart (isLeapYear date.year) date.month + (date.day - 1) := rfl

/-- The days of a month, as they depend on the year. -/
def monthLength (leap : Bool) (month : Nat) : Nat := daysInMonth (if leap then 2000 else 2001) month

theorem daysInMonth_eq (year : Int) (month : Nat) :
    daysInMonth year month = monthLength (isLeapYear year) month := by
  unfold monthLength daysInMonth
  cases isLeapYear year <;> rfl

theorem month_mem_of_isReal {date : Date} (real : date.isReal = true) :
    1 ≤ date.month ∧ date.month ≤ 12 := by
  obtain ⟨first, last⟩ := isReal_iff.1 real
  unfold daysInMonth at last
  split at last <;> omega

/-- A month ends where the next one starts. -/
theorem monthStart_succ (leap : Bool) {month : Nat} (first : 1 ≤ month) (last : month < 12) :
    monthStart leap (month + 1) = monthStart leap month + monthLength leap month := by
  have all : ∀ leap, ∀ month < 12, 1 ≤ month →
      monthStart leap (month + 1) = monthStart leap month + monthLength leap month := by
    decide +kernel
  exact all leap month last first

theorem monthLength_le (leap : Bool) {month : Nat} (last : month ≤ 12) :
    monthLength leap month ≤ 31 := by
  have all : ∀ leap, ∀ month < 13, monthLength leap month ≤ 31 := by decide +kernel
  exact all leap month (Nat.lt_succ_of_le last)

/-- Day and month of a date that exists have no more than two digits. -/
theorem day_lt_of_isReal {date : Date} (real : date.isReal = true) :
    date.day < 100 ∧ date.month < 100 := by
  have last := (isReal_iff.1 real).2
  have high := (month_mem_of_isReal real).2
  rw [daysInMonth_eq] at last
  have longest := monthLength_le (isLeapYear date.year) high
  omega

theorem monthStart_mono (leap : Bool) {month later : Nat} (first : 1 ≤ month)
    (below : month < later) (last : later ≤ 12) :
    monthStart leap month + monthLength leap month ≤ monthStart leap later := by
  induction below with
  | refl => exact Nat.le_of_eq (monthStart_succ leap first (by omega)).symm
  | @step between below ih =>
    have behind : month < between := below
    rw [monthStart_succ leap (by omega) (by omega)]
    exact Nat.le_trans (ih (by omega)) (Nat.le_add_right _ _)

/-- The days of a year. -/
def yearLength (leap : Bool) : Nat := if leap then 366 else 365

theorem monthStart_january (leap : Bool) : monthStart leap 1 = 0 := by
  cases leap <;> rfl

theorem monthStart_december (leap : Bool) :
    monthStart leap 12 + monthLength leap 12 = yearLength leap := by
  cases leap <;> rfl

theorem daysBeforeYear_succ (year : Int) :
    daysBeforeYear (year + 1) = daysBeforeYear year + yearLength (isLeapYear year) := by
  unfold daysBeforeYear yearLength isLeapYear
  simp only [Bool.and_eq_true, Bool.or_eq_true, beq_iff_eq, bne_iff_ne]
  split <;> omega

theorem daysBeforeYear_mono {year later : Int} (below : year < later) :
    daysBeforeYear (year + 1) ≤ daysBeforeYear later := by
  simp only [daysBeforeYear]
  omega

/-! ### Numbers of days -/

theorem dayOfYear_lt {date : Date} (real : date.isReal = true) :
    date.dayOfYear < yearLength (isLeapYear date.year) := by
  obtain ⟨first, last⟩ := isReal_iff.1 real
  obtain ⟨low, high⟩ := month_mem_of_isReal real
  rw [daysInMonth_eq] at last
  rw [dayOfYear_eq, ← monthStart_december]
  rcases Nat.lt_or_eq_of_le high with early | december
  · have := monthStart_mono (isLeapYear date.year) low early (Nat.le_refl 12)
    omega
  · rw [december] at last ⊢
    omega

theorem isReal_newYear (year : Int) : (Date.mk year 1 1).isReal = true := rfl

theorem isReal_next {date : Date} (real : date.isReal = true) : date.next.isReal = true := by
  obtain ⟨low, high⟩ := month_mem_of_isReal real
  unfold next
  split
  case isTrue more => exact isReal_iff.2 ⟨Nat.le_add_left _ _, more⟩
  case isFalse =>
    split
    case isTrue early =>
      have all : ∀ leap, ∀ month < 12, 1 ≤ monthLength leap (month + 1) := by decide +kernel
      exact isReal_iff.2 ⟨Nat.le_refl 1, daysInMonth_eq .. ▸ all _ _ early⟩
    case isFalse => exact isReal_newYear _

/-- The day behind a date has the next number. -/
theorem dayNumber_next {date : Date} (real : date.isReal = true) :
    date.next.dayNumber = date.dayNumber + 1 := by
  obtain ⟨first, last⟩ := isReal_iff.1 real
  obtain ⟨low, high⟩ := month_mem_of_isReal real
  simp only [dayNumber, dayOfYear_eq]
  unfold next
  split
  case isTrue more =>
    simp only
    omega
  case isFalse full =>
    rw [daysInMonth_eq] at last full
    split
    case isTrue early =>
      simp only [monthStart_succ _ low early]
      omega
    case isFalse late =>
      have december : date.month = 12 := by omega
      have whole := monthStart_december (isLeapYear date.year)
      rw [december] at last full ⊢
      simp only [daysBeforeYear_succ, monthStart_january]
      omega

theorem dayNumber_lt_of_year_lt {a b : Date} (realA : a.isReal = true) (below : a.year < b.year) :
    a.dayNumber < b.dayNumber := by
  have inYear := dayOfYear_lt realA
  have mono := daysBeforeYear_mono below
  rw [daysBeforeYear_succ] at mono
  simp only [dayNumber]
  omega

/-- Two dates of a year with as many days before them are the same. -/
theorem eq_of_dayOfYear_eq {a b : Date} (realA : a.isReal = true) (realB : b.isReal = true)
    (year : a.year = b.year) (same : a.dayOfYear = b.dayOfYear) : a = b := by
  obtain ⟨firstA, lastA⟩ := isReal_iff.1 realA
  obtain ⟨firstB, lastB⟩ := isReal_iff.1 realB
  obtain ⟨lowA, highA⟩ := month_mem_of_isReal realA
  obtain ⟨lowB, highB⟩ := month_mem_of_isReal realB
  rw [daysInMonth_eq] at lastA lastB
  rw [dayOfYear_eq, dayOfYear_eq, year] at same
  rw [year] at lastA
  have month : a.month = b.month := by
    rcases Nat.lt_trichotomy a.month b.month with below | equal | above
    · have := monthStart_mono (isLeapYear b.year) lowA below highB
      omega
    · exact equal
    · have := monthStart_mono (isLeapYear b.year) lowB above highA
      omega
  obtain ⟨yearA, monthA, dayA⟩ := a
  obtain ⟨yearB, monthB, dayB⟩ := b
  simp only at year month firstA firstB
  simp only [month] at same
  rw [year, month, show dayA = dayB by omega]

/-- No two dates that exist have the same number. -/
theorem eq_of_dayNumber_eq {a b : Date} (realA : a.isReal = true) (realB : b.isReal = true)
    (same : a.dayNumber = b.dayNumber) : a = b := by
  have year : a.year = b.year := by
    rcases Int.lt_trichotomy a.year b.year with below | equal | above
    · exact absurd same (Int.ne_of_lt (dayNumber_lt_of_year_lt realA below))
    · exact equal
    · exact absurd same.symm (Int.ne_of_lt (dayNumber_lt_of_year_lt realB above))
  refine eq_of_dayOfYear_eq realA realB year ?_
  simp only [dayNumber, year] at same
  omega

/-! ### Going on -/

/-- Days on end have numbers on end. -/
theorem iterate_next {date : Date} (real : date.isReal = true) (n : Nat) :
    (next^[n] date).isReal = true ∧ (next^[n] date).dayNumber = date.dayNumber + n := by
  induction n with
  | zero => exact ⟨real, (Int.add_zero _).symm⟩
  | succ n ih =>
    rw [Function.iterate_succ_apply', dayNumber_next ih.1, ih.2]
    exact ⟨isReal_next ih.1, by omega⟩

theorem isReal_epoch : epoch.isReal = true := by decide

theorem dayNumber_epoch : epoch.dayNumber = 0 := by decide

/-- The number of a date is how far it is from the epoch, day by day. -/
theorem daysFromEpoch_iff {date : Date} (real : date.isReal = true) {days : Int} :
    date.DaysFromEpoch days ↔ date.dayNumber = days := by
  unfold DaysFromEpoch
  split
  case isTrue behind =>
    obtain ⟨realN, number⟩ := iterate_next isReal_epoch days.toNat
    rw [dayNumber_epoch] at number
    constructor
    · rintro rfl
      omega
    · intro same
      exact eq_of_dayNumber_eq realN real (by omega)
  case isFalse before =>
    obtain ⟨realN, number⟩ := iterate_next real (-days).toNat
    constructor
    · intro reached
      rw [reached, dayNumber_epoch] at number
      omega
    · intro same
      exact eq_of_dayNumber_eq realN isReal_epoch (by rw [number, dayNumber_epoch]; omega)

/-- Every number of days from the epoch on is that of a date. -/
theorem exists_dayNumber_eq {days : Int} (behind : 0 ≤ days) :
    ∃ date : Date, date.isReal = true ∧ date.dayNumber = days := by
  obtain ⟨real, number⟩ := iterate_next isReal_epoch days.toNat
  exact ⟨_, real, by rw [number, dayNumber_epoch]; omega⟩

/-- A date is in the years whose days its number is among. -/
theorem year_mem_of_dayNumber {date : Date} (real : date.isReal = true) {first last : Int}
    (behind : (Date.mk first 1 1).dayNumber ≤ date.dayNumber)
    (before : date.dayNumber < (Date.mk (last + 1) 1 1).dayNumber) :
    first ≤ date.year ∧ date.year ≤ last := by
  constructor
  · refine Int.not_lt.1 fun early => ?_
    exact Int.not_lt.2 behind (dayNumber_lt_of_year_lt real early)
  · refine Int.not_lt.1 fun late => ?_
    -- in the very next year the number is not less than that of its first day, which is the bound
    rcases Int.lt_or_eq_of_le (Int.add_one_le_of_lt late) with later | newYear
    · exact Int.lt_asymm before (dayNumber_lt_of_year_lt (isReal_newYear _) later)
    · have start : (Date.mk date.year 1 1).dayNumber ≤ date.dayNumber := by
        simp only [dayNumber, dayOfYear_eq, monthStart_january]
        omega
      rw [newYear] at before
      exact Int.not_lt.2 start before

end Date

/-! ### Instants -/

namespace Instant

/-- The date and the time of day of an instant of whole seconds. -/
structure Shows (t : Instant) (date : Date) (hour minute second : Nat) : Prop where
  isReal : date.isReal = true
  day : date.DaysFromEpoch (t.seconds / 86400)
  hour_lt : hour < 24
  minute_lt : minute < 60
  second_lt : second < 60
  clock : t.seconds % 86400 = (3600 * hour + 60 * minute + second : Nat)
  whole : t.nanos = 0

/-- An instant is counted up from its date and its time of day. -/
theorem shows_iff {t : Instant} {date : Date} {hour minute second : Nat} :
    t.Shows date hour minute second ↔ date.isReal = true ∧ hour < 24 ∧ minute < 60 ∧ second < 60 ∧
      t = ⟨86400 * date.dayNumber + (3600 * hour + 60 * minute + second : Nat), 0⟩ := by
  constructor
  · intro shown
    have day := (Date.daysFromEpoch_iff shown.isReal).1 shown.day
    have clock := shown.clock
    refine ⟨shown.isReal, shown.hour_lt, shown.minute_lt, shown.second_lt, ?_⟩
    obtain ⟨seconds, nanos⟩ := t
    obtain rfl : nanos = 0 := shown.whole
    simp only [mk.injEq, and_true] at day clock ⊢
    omega
  · rintro ⟨real, early, before, within, rfl⟩
    refine ⟨real, (Date.daysFromEpoch_iff real).2 ?_, early, before, within, ?_, rfl⟩ <;>
    · simp only
      omega

/-- The instant of a date and a time of day is the one that shows them. -/
theorem ofFields?_eq_some_iff {date : Date} {hour minute second : Nat} {t : Instant} :
    ofFields? date hour minute second = some t ↔
      t.Shows date hour minute second ∧ Date.firstYear ≤ date.year ∧ date.year ≤ Date.lastYear := by
  rw [ofFields?, Option.ite_none_right_eq_some, Option.some.injEq, eq_comm (b := t), shows_iff]
  simp only [Bool.and_eq_true, decide_eq_true_eq]
  tauto

/-- Each whole second from the epoch on has a date and a time of day. -/
theorem exists_shows {t : Instant} (whole : t.nanos = 0) (behind : 0 ≤ t.seconds) :
    ∃ date hour minute second, t.Shows date hour minute second := by
  obtain ⟨date, real, number⟩ := Date.exists_dayNumber_eq (show 0 ≤ t.seconds / 86400 by omega)
  refine ⟨date, (t.seconds % 86400 / 3600).toNat, (t.seconds % 3600 / 60).toNat,
    (t.seconds % 60).toNat, ?_⟩
  refine ⟨real, (Date.daysFromEpoch_iff real).2 number, ?_, ?_, ?_, ?_, whole⟩ <;> omega

end Instant
end TrackerGateway
