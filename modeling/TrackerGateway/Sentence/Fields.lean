import TrackerGateway.Sentence.Template
import TrackerGateway.Decimal.Reading
import TrackerGateway.Text.Integer
import TrackerGateway.Text.Trim
import TrackerGateway.Time.Instant
import TrackerGateway.Json.Record

/-!
# The fields of a matched sentence

Each accessor takes a fixed number of fields off the front, whatever they hold: one, or as many as
the date or the coordinate has. What the device sent can make a value missing; to read past the last
field is a fault of the template and is told as `Overrun`.
-/

namespace TrackerGateway.Sentence

/-- The fields that are left of a sentence. A field that took no part in the match is none. -/
structure Fields where
  rest : List (Option String)
  /-- How many there were at first. -/
  total : Nat
  deriving DecidableEq, Repr

/-- A template has fewer fields than were read. -/
structure Overrun where
  total : Nat
  deriving DecidableEq, Repr

/-- The words of an overrun. -/
def Overrun.message (o : Overrun) : String := s!"sentence pattern has only {o.total} capture groups"

/-- Reads fields. -/
abbrev Read (α : Type) := StateT Fields (Except Overrun) α

/-- Orders of the parts of a date and a time. -/
inductive TimeOrder where
  | hmsDmy
  | hmsYmd
  | dmyHms
  | ymdHms
  deriving DecidableEq, Repr

/-- Forms of a coordinate. -/
inductive CoordinateForm where
  /-- Degrees, hemisphere. -/
  | degHem
  /-- Hemisphere, degrees. -/
  | hemDeg
  /-- Degrees, minutes, hemisphere. -/
  | degMinHem
  /-- Hemisphere, degrees, minutes. -/
  | hemDegMin
  /-- Hemisphere, degrees, whole minutes, fraction of a minute. -/
  | hemDegMinMin
  deriving DecidableEq, Repr

/-- The number of fields of a coordinate. -/
def CoordinateForm.size : CoordinateForm → Nat
  | .degHem | .hemDeg => 2
  | .degMinHem | .hemDegMin => 3
  | .hemDegMinMin => 4

/-- The year a number of two digits stands for: from 70 on in the last century. -/
def expandYear (year : Int) : Int :=
  if 0 ≤ year ∧ year ≤ 99 then if 70 ≤ year then 1900 + year else 2000 + year else year

/-- A sign of 32 bits in a field. -/
def intOf (field : Option String) : Option Int :=
  field.bind fun s => Text.Integer.decimal? (.signed 32) (Text.trim s)

/-- A signed number of 64 bits in a field. -/
def longOf (field : Option String) : Option Int :=
  field.bind fun s => Text.Integer.decimal? (.signed 64) (Text.trim s)

/-- A hexadecimal number of 32 bits in a field. -/
def hexOf (field : Option String) : Option Nat :=
  (field.bind fun s => (Text.Integer.read (.unsigned 32) 16 (Text.trim s).toList).toOption).map
    Int.toNat

/-- A number with a fraction in a field. -/
def doubleOf (field : Option String) : Option Float :=
  field.bind fun s => Decimal.read? (Text.trim s).toList

/-- A number that is not negative. -/
def natOf? (n : Int) : Option Nat := if 0 ≤ n then some n.toNat else none

/-- The instant of a year as sent, a month, a day and a time of day. -/
def instantOf? (year month day hour minute second : Int) : Option Instant := do
  Instant.ofFields? ⟨expandYear year, ← natOf? month, ← natOf? day⟩ (← natOf? hour)
    (← natOf? minute) (← natOf? second)

/-- The instant of six numbers in an order. -/
def TimeOrder.instant? : TimeOrder → List (Option Int) → Option Instant
  | .hmsDmy, [some h, some mi, some s, some d, some mo, some y] => instantOf? y mo d h mi s
  | .hmsYmd, [some h, some mi, some s, some y, some mo, some d] => instantOf? y mo d h mi s
  | .dmyHms, [some d, some mo, some y, some h, some mi, some s] => instantOf? y mo d h mi s
  | .ymdHms, [some y, some mo, some d, some h, some mi, some s] => instantOf? y mo d h mi s
  | _, _ => none

/-- Degrees and minutes as degrees. -/
def degreesOf? (degrees : Option Int) (minutes : Option Float) : Option Float := do
  some (Json.floatOfInt (← degrees) + (← minutes) / 60)

/-- Minutes whose fraction is a field of its own. -/
def minutesOf? (whole : Option Int) (fraction : Option String) : Option Float :=
  match whole, fraction with
  | some whole, some digits => Decimal.read? s!"{whole}.{digits}".toList
  | some whole, none => some (Json.floatOfInt whole)
  | none, _ => none

/-- The magnitude, negative in the southern and western hemispheres. -/
def hemisphered (hemisphere : Option String) (magnitude : Float) : Float :=
  if hemisphere = some "S" || hemisphere = some "W" || hemisphere = some "-" then -magnitude.abs
  else magnitude

/-- The coordinate in fields of a form. -/
def CoordinateForm.value? : CoordinateForm → List (Option String) → Option Float
  | .degHem, [degrees, hemisphere] => (doubleOf degrees).map (hemisphered hemisphere)
  | .hemDeg, [hemisphere, degrees] => (doubleOf degrees).map (hemisphered hemisphere)
  | .degMinHem, [degrees, minutes, hemisphere] =>
    (degreesOf? (intOf degrees) (doubleOf minutes)).map (hemisphered hemisphere)
  | .hemDegMin, [hemisphere, degrees, minutes] =>
    (degreesOf? (intOf degrees) (doubleOf minutes)).map (hemisphered hemisphere)
  | .hemDegMinMin, [hemisphere, degrees, minutes, fraction] =>
    (degreesOf? (intOf degrees) (minutesOf? (intOf minutes) fraction)).map (hemisphered hemisphere)
  | _, _ => none

namespace Fields

/-- The fields of a sentence that matches a pattern. -/
def ofMatch? (pattern : Pattern.Compiled) (sentence : String) : Option Fields :=
  (pattern.match? sentence.toList).map fun groups =>
    ⟨groups.map (Option.map String.ofList), groups.length⟩

/-- Whether each of the next fields holds something. -/
def hasNext (fields : Fields) (count : Nat) : Bool :=
  count ≤ fields.rest.length && (fields.rest.take count).all fun f =>
    (f.filter (! ·.isEmpty)).isSome

/-- Takes one field; an empty one counts as missing. -/
def next : Read (Option String) := fun fields =>
  match fields.rest with
  | [] => .error ⟨fields.total⟩
  | field :: rest => .ok (field.filter (! ·.isEmpty), { fields with rest })

/-- Takes so many fields. -/
def nexts : Nat → Read (List (Option String))
  | 0 => pure []
  | count + 1 => do
    let field ← next
    let more ← nexts count
    pure (field :: more)

/-- Passes over so many fields. -/
def skip (count : Nat) : Read Unit := do
  let _ ← nexts count
  pure ()

/-- Takes an integer of 32 bits. -/
def int? : Read (Option Int) := intOf <$> next

/-- Takes an integer of 32 bits, or the default. -/
def int (default : Int) : Read Int := (·.getD default) <$> int?

/-- Takes an integer of 64 bits, or the default. -/
def long (default : Int) : Read Int := (fun f => (longOf f).getD default) <$> next

/-- Takes a hexadecimal number of 32 bits, or the default. -/
def hex (default : Nat) : Read Nat := (fun f => (hexOf f).getD default) <$> next

/-- Takes a number with a fraction. -/
def double? : Read (Option Float) := doubleOf <$> next

/-- Takes a number with a fraction, or the default. -/
def double (default : Float) : Read Float := (·.getD default) <$> double?

/-- Takes the six fields of a date and a time. -/
def dateTime? (order : TimeOrder) : Read (Option Instant) :=
  (fun fields => order.instant? (fields.map intOf)) <$> nexts 6

/-- Takes the fields of a coordinate. -/
def coordinate? (form : CoordinateForm) : Read (Option Float) := form.value? <$> nexts form.size

end Fields
end TrackerGateway.Sentence
