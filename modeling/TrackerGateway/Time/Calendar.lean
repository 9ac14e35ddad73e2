/-!
# The proleptic Gregorian calendar

A `Date` is a year of any sign, a month and a day; `Date.isReal` says which ones exist.
`Date.dayNumber` counts days from 1970-01-01, and `Date.ofDayNumber` is its inverse.
-/

namespace TrackerGateway

/-- A year, a month from 1 and a day from 1. -/
structure Date where
  year : Int
  month : Nat
  day : Nat
  deriving DecidableEq, Repr

namespace Date

/-- Whether a year has a 29th of February. -/
def isLeapYear (year : Int) : Bool := year % 4 == 0 && (year % 100 != 0 || year % 400 == 0)

/-- The number of days of a month; none in a month that does not exist. -/
def daysInMonth (year : Int) : Nat → Nat
  | 1 | 3 | 5 | 7 | 8 | 10 | 12 => 31
  | 4 | 6 | 9 | 11 => 30
  | 2 => if isLeapYear year then 29 else 28
  | _ => 0

/-- Whether the date exists. -/
def isReal (date : Date) : Bool := 1 ≤ date.day && date.day ≤ daysInMonth date.year date.month

/-- The first and the last year a timestamp may have. -/
def firstYear : Int := -262143

/-- The last year a timestamp may have. -/
def lastYear : Int := 262142

/-- The days of a common year before a month. -/
def daysBeforeMonth : Nat → Nat
  | 2 => 31 | 3 => 59 | 4 => 90 | 5 => 120 | 6 => 151 | 7 => 181
  | 8 => 212 | 9 => 243 | 10 => 273 | 11 => 304 | 12 => 334
  | _ => 0

/-- The days from the first day of the year 1 to the first day of a year. -/
def daysBeforeYear (year : Int) : Int :=
  let y := year - 1
  365 * y + y / 4 - y / 100 + y / 400

/-- The day of the year, from 0. -/
def dayOfYear (date : Date) : Nat :=
  daysBeforeMonth date.month + (if isLeapYear date.year && 2 < date.month then 1
    else 0) + (date.day - 1)

/-- The days from 1970-01-01, negative before it. -/
def dayNumber (date : Date) : Int := daysBeforeYear date.year + date.dayOfYear - 719162

/-- The date of a day of a year counted from 0, found from the last month on. -/
def ofDayOfYear (year : Int) (dayInYear : Nat) : Date :=
  let starts (month : Nat) : Nat :=
    daysBeforeMonth month + if isLeapYear year && 2 < month then 1 else 0
  let month := ([12, 11, 10, 9, 8, 7, 6, 5, 4, 3, 2].find? fun m => starts m ≤ dayInYear).getD 1
  ⟨year, month, dayInYear - starts month + 1⟩

/-- The date so many days from 1970-01-01. -/
def ofDayNumber (days : Int) : Date :=
  let d := days + 719162
  -- 400 years have 146097 days, so this year is right or one too great
  let guess := d * 400 / 146097 + 1
  let year := if d < daysBeforeYear guess then guess - 1
    else if daysBeforeYear (guess + 1) ≤ d then guess + 1 else guess
  ofDayOfYear year (d - daysBeforeYear year).toNat

end Date
end TrackerGateway
