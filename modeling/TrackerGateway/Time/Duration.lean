import TrackerGateway.Decimal.Reading
import TrackerGateway.Text.Category

/-!
# Spans of time as people write them: numbers with units, such as `1h 30m 5s`

`Duration.ofText?` takes whole numbers and decimal fractions, units of many spellings, and blanks
between them; `Duration.toText` writes the largest units first. Seconds and nanoseconds are bound to
64 bits while reading.
-/

namespace TrackerGateway

/-- A span of time in nanoseconds. -/
structure Duration where
  nanoseconds : Nat
  deriving DecidableEq, Repr

namespace Duration

/-- The nanoseconds of a second. -/
def second : Nat := 1000000000

/-- A span of whole seconds. -/
def ofSeconds (seconds : Nat) : Duration := ⟨seconds * second⟩

/-- A unit of time: how many nanoseconds it has, and how many its parts are counted in. -/
structure Measure where
  size : Nat
  /-- What whole numbers of the unit are counted in. -/
  grain : Nat
  /-- What fractions of the unit are counted in; none if it has no fractions. -/
  fractionGrain : Option Nat
  deriving DecidableEq, Repr

/-- The units with their spellings. A month has 30.44 days, a year 365.25. -/
def units : List (List String × Measure) :=
  [(["nanos", "nsec", "ns"], ⟨1, 1, none⟩),
    (["usec", "us", "µs"], ⟨1000, 1, some 1⟩),
    (["millis", "msec", "ms"], ⟨1000000, 1, some 1⟩),
    (["seconds", "second", "secs", "sec", "s"], ⟨second, second, some 1⟩),
    (["minutes", "minute", "min", "mins", "m"], ⟨60 * second, second, some 1⟩),
    (["hours", "hour", "hrs", "hr", "h"], ⟨3600 * second, second, some second⟩),
    (["days", "day", "d"], ⟨86400 * second, second, some second⟩),
    (["weeks", "week", "wks", "wk", "w"], ⟨604800 * second, second, some second⟩),
    (["months", "month", "M"], ⟨2630016 * second, second, some second⟩),
    (["years", "year", "yrs", "yr", "y"], ⟨31557600 * second, second, some second⟩)]

/-- The unit of a spelling. -/
def unit? (spelling : String) : Option Measure :=
  (units.find? fun entry => entry.1.contains spelling).map (·.2)

/-- A number of 64 bits. -/
def word? (n : Nat) : Option Nat := if n < Nat.pow 2 64 then some n else none

/-- Adds a span counted in a grain: nanoseconds and seconds must each fit in 64 bits. -/
def add? (total count grain : Nat) : Option Nat := do
  let count ← word? count
  if grain = 1 then
    let part ← word? (total % second + count)
    let seconds ← word? (total / second + part / second)
    some (seconds * second + part % second)
  else
    let seconds ← word? (total / second + count)
    some (seconds * second + total % second)

/-- A decimal fraction: its digits as a number, and the power of ten they are over. -/
structure Fraction where
  numerator : Nat
  denominator : Nat
  deriving DecidableEq, Repr

/-- Adds a number of a unit. -/
def addUnit? (total whole : Nat) (fraction : Option Fraction) (spelling : List Char) :
    Option Nat := do
  let unit ← unit? (String.ofList spelling)
  let total ← add? total (whole * (unit.size / unit.grain)) unit.grain
  match fraction with
  | none => some total
  | some f =>
    let grain ← unit.fractionGrain
    let scaled ← word? (f.numerator * (unit.size / grain))
    add? total (scaled / f.denominator) grain

/-- Whether a character may stand in the name of a unit. -/
def isUnitLetter (c : Char) : Bool := Text.isAsciiLetter c || c == 'µ'

/-- What was read last. -/
inductive Reading where
  /-- A whole item, or nothing yet. -/
  | item
  | whole (n : Nat)
  | fraction (whole : Nat) (part : Fraction)
  /-- The first letters of a unit, in reverse order, after its number. -/
  | unit (whole : Nat) (part : Option Fraction) (letters : List Char)

/-- The value of a decimal digit. -/
def digit? (c : Char) : Option Nat :=
  if Text.isAsciiDigit c then some (c.toNat - 48) else none

/-- Reads on, with what the items so far come to. -/
def readOn (total : Nat) : Reading → List Char → Option Nat
  | .item, [] => some total
  | .whole _, [] | .fraction .., [] => none
  | .unit whole part letters, [] => addUnit? total whole part letters.reverse
  | .item, c :: rest =>
    match digit? c with
    | some d => readOn total (.whole d) rest
    | none => if Text.isBlank c then readOn total .item rest else none
  | .whole n, c :: rest =>
    match digit? c with
    | some d => do readOn total (.whole (← word? (10 * n + d))) rest
    | none =>
      if Text.isBlank c then readOn total (.whole n) rest
      else if isUnitLetter c then readOn total (.unit n none [c]) rest
      else if c = '.' then readOn total (.fraction n ⟨0, 1⟩) rest
      else none
  | .fraction n f, c :: rest =>
    match digit? c with
    | some d => do
      let numerator ← word? (10 * f.numerator + d)
      let denominator ← word? (10 * f.denominator)
      readOn total (.fraction n ⟨numerator, denominator⟩) rest
    | none =>
      if Text.isBlank c then readOn total (.fraction n f) rest
      else if isUnitLetter c ∧ f.denominator ≠ 1 then readOn total (.unit n (some f) [c]) rest
      else none
  | .unit whole part letters, c :: rest =>
    match digit? c with
    | some d => do readOn (← addUnit? total whole part letters.reverse) (.whole d) rest
    | none =>
      if Text.isBlank c then do readOn (← addUnit? total whole part letters.reverse) .item rest
      else if isUnitLetter c then readOn total (.unit whole part (c :: letters)) rest
      else none

/-- Reads a span. -/
def ofText? (text : String) : Option Duration :=
  if text = "0" then some ⟨0⟩
  else if text.toList.all Text.isBlank then none
  else (readOn 0 .item text.toList).map Duration.mk

/-- A number of a unit whose name has a plural, unless it is zero. -/
def countText (count : Nat) (name : String) : List String :=
  if count = 0 then [] else if count = 1 then [s!"1{name}"] else [s!"{count}{name}s"]

/-- A number of a unit, unless it is zero. -/
def partText (count : Nat) (name : String) : List String :=
  if count = 0 then [] else [s!"{count}{name}"]

/-- Writes a span. -/
def toText (d : Duration) : String :=
  let seconds := d.nanoseconds / second
  let nanoseconds := d.nanoseconds % second
  let inYear := seconds % 31557600
  let inMonth := inYear % 2630016
  let inDay := inMonth % 86400
  if d.nanoseconds = 0 then "0s"
  else
    " ".intercalate <|
      countText (seconds / 31557600) "year" ++ countText (inYear / 2630016) "month" ++
        countText (inMonth / 86400) "day" ++ partText (inDay / 3600) "h" ++
        partText (inDay % 3600 / 60) "m" ++ partText (inDay % 60) "s" ++
        partText (nanoseconds / 1000000) "ms" ++ partText (nanoseconds / 1000 % 1000) "us" ++
        partText (nanoseconds % 1000) "ns"

end Duration
end TrackerGateway
