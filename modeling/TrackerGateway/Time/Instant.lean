import TrackerGateway.Time.Calendar
import TrackerGateway.Text.Category

/-!
# Instants in universal time, and their text

An instant is a count of seconds from 1970-01-01T00:00:00Z and nanoseconds; a leap second is the
second before it with a thousand million nanoseconds or more. `Instant.toText` writes the internet
timestamp format, `Instant.ofText?` reads it, with some freedom in blanks and with any offset.
-/

namespace TrackerGateway

/-- A point in time. -/
structure Instant where
  /-- Seconds from 1970-01-01T00:00:00Z. -/
  seconds : Int
  /-- Nanoseconds past them, below 2 000 000 000. -/
  nanos : Nat
  deriving DecidableEq, Repr

namespace Instant

/-- The instant of a date and a time of day; `none` if the date does not exist or its year is out of
the supported span, or there is no such time of day. -/
def ofFields? (date : Date) (hour minute second : Nat) : Option Instant :=
  if date.isReal && Date.firstYear ≤ date.year && date.year ≤ Date.lastYear &&
      hour < 24 && minute < 60 && second < 60 then
    some ⟨86400 * date.dayNumber + (3600 * hour + 60 * minute + second : Nat), 0⟩
  else none

/-- The instant so many seconds from the epoch, if its year is in the supported span. -/
def ofSeconds? (seconds : Int) : Option Instant :=
  let year := (Date.ofDayNumber (seconds / 86400)).year
  if Date.firstYear ≤ year && year ≤ Date.lastYear then some ⟨seconds, 0⟩ else none

/-- The decimal digits of a number, at least `width` of them. -/
def padded (width n : Nat) : List Char :=
  let digits := Nat.toDigits 10 n
  List.replicate (width - digits.length) '0' ++ digits

/-- A year of four digits, or with a sign where it is negative or longer. -/
def yearText (year : Int) : List Char :=
  if 0 ≤ year ∧ year ≤ 9999 then padded 4 year.toNat
  else (if year < 0 then '-' else '+') :: padded 4 year.natAbs

/-- The fraction of a second in thousandths, millionths or thousand millionths. -/
def fractionText (nanos : Nat) : List Char :=
  if nanos = 0 then []
  else if nanos % 1000000 = 0 then '.' :: padded 3 (nanos / 1000000)
  else if nanos % 1000 = 0 then '.' :: padded 6 (nanos / 1000)
  else '.' :: padded 9 nanos

/-- The instant as text, such as 2014-04-22T13:46:52Z. -/
def toText (t : Instant) : String :=
  let date := Date.ofDayNumber (t.seconds / 86400)
  let inDay := (t.seconds % 86400).toNat
  let leap := if 1000000000 ≤ t.nanos then 1 else 0
  String.ofList <|
    yearText date.year ++ '-' :: padded 2 date.month ++ '-' :: padded 2 date.day ++
    'T' :: padded 2 (inDay / 3600) ++ ':' :: padded 2 (inDay / 60 % 60) ++
    ':' :: padded 2 (inDay % 60 + leap) ++ fractionText (t.nanos - leap * 1000000000) ++ ['Z']

/-! ### Reading -/

/-- The text less the blanks in front. -/
def skipBlanks (cs : List Char) : List Char := cs.dropWhile Text.isBlank

/-- One to `most` digits, after blanks. -/
def number? (most : Nat) (cs : List Char) : Option (Nat × List Char) :=
  let cs := skipBlanks cs
  let digits := (cs.take most).takeWhile Text.isAsciiDigit
  if digits.isEmpty then none
  else some (digits.foldl (fun n c => 10 * n + (c.toNat - 48)) 0, cs.drop digits.length)

/-- A year: up to four digits, or a sign and any number of them. -/
def year? (cs : List Char) : Option (Int × List Char) :=
  match skipBlanks cs with
  | '-' :: rest => (number? rest.length rest).filter (fun _ => startsWithDigit rest)
      |>.map fun (n, r) => (-(n : Int), r)
  | '+' :: rest => (number? rest.length rest).filter (fun _ => startsWithDigit rest)
      |>.map fun (n, r) => ((n : Int), r)
  | rest => (number? 4 rest).map fun (n, r) => ((n : Int), r)
where
  /-- Whether a digit comes first. -/
  startsWithDigit (cs : List Char) : Bool := (cs.head?.map Text.isAsciiDigit).getD false

/-- A given character, after blanks. -/
def mark? (c : Char) (cs : List Char) : Option (List Char) :=
  match skipBlanks cs with
  | d :: rest => if c = d then some rest else none
  | [] => none

/-- A fraction of a second in nanoseconds; digits past the ninth are dropped. -/
def fraction? : List Char → Option (Nat × List Char)
  | '.' :: rest =>
    let digits := rest.takeWhile Text.isAsciiDigit
    if digits.isEmpty then none
    else
      let nine := (digits ++ List.replicate 9 '0').take 9
      some (nine.foldl (fun n c => 10 * n + (c.toNat - 48)) 0, rest.drop digits.length)
  | rest => some (0, rest)

/-- Two digits, the first at most `most`. -/
def twoDigits? (most : Char) : List Char → Option (Nat × List Char)
  | a :: b :: rest =>
    if Text.isAsciiDigit a && a ≤ most && Text.isAsciiDigit b then
      some (10 * (a.toNat - 48) + (b.toNat - 48), rest)
    else none
  | _ => none

/-- An offset from universal time in seconds. -/
def offset? (cs : List Char) : Option (Int × List Char) :=
  match cs with
  | 'Z' :: rest | 'z' :: rest => some (0, rest)
  | sign :: rest =>
    if sign = '+' ∨ sign = '-' ∨ sign = '\u2212' then do
      let (hours, rest) ← twoDigits? '9' rest
      let (minutes, rest) ← twoDigits? '5' (rest.dropWhile fun c => c == ':' || Text.isBlank c)
      let seconds : Int := (3600 * hours + 60 * minutes : Nat)
      if seconds < 86400 then some (if sign = '+' then seconds else -seconds, rest) else none
    else none
  | [] => none

/-- An offset, or the name of universal time, after blanks. -/
def zone? (cs : List Char) : Option (Int × List Char) :=
  let cs := skipBlanks cs
  if (String.ofList (cs.take 3)).map Char.toLower = "utc" then some (0, cs.drop 3) else offset? cs

/-- Reads a timestamp. -/
def ofText? (text : String) : Option Instant := do
  let (year, rest) ← year? text.toList
  let rest ← mark? '-' rest
  let (month, rest) ← number? 2 rest
  let rest ← mark? '-' rest
  let (day, rest) ← number? 2 rest
  let rest ← match rest with
    | 'T' :: rest | 't' :: rest | ' ' :: rest => some rest
    | _ => none
  let (hour, rest) ← number? 2 rest
  let rest ← mark? ':' rest
  let (minute, rest) ← number? 2 rest
  let rest ← mark? ':' rest
  let (second, rest) ← number? 2 rest
  let (nanos, rest) ← fraction? rest
  let (offset, rest) ← zone? rest
  if !(skipBlanks rest).isEmpty then none
  else
    let leap := second == 60
    let t ← ofFields? ⟨year, month, day⟩ hour minute (if leap then 59 else second)
    (ofSeconds? (t.seconds - offset)).map fun u =>
      { u with nanos := nanos + if leap then 1000000000 else 0 }

end Instant
end TrackerGateway
