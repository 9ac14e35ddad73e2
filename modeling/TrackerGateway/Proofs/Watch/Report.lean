import TrackerGateway.Proofs.Pattern.Form
import TrackerGateway.Proofs.Sentence.Dates
import TrackerGateway.Watch.Report

/-!
# Reports, from the entries that a watch writes to the position that they tell

The pattern of a report is a form (`Report.pattern?_eq`): sixteen columns, each with a comma
behind it, and the block of networks. The entries of a report (`Report.Entries`) fill these
columns in one way only (`Entries.takes_iff`), so their texts are the fields that are read, each
in its place, and the position is what was entered (`Entries.tells_position?`).
-/

namespace TrackerGateway.Watch.Report

open Pattern Sentence
open Text (Numeral)
open Decimal (Amount)

/-! ### The form -/

/-- Two digits. -/
def twoDigits : Pattern := .times (.char .digit) 2

/-- A run of digits. -/
def digits : Pattern := .plus (.char .digit) true

/-- A run of hexadecimal digits. -/
def hexDigits : Pattern :=
  .plus (.char (.unions [.range '0' '9', .range 'a' 'f', .range 'A' 'F'])) true

/-- A run of blanks, or none. -/
def blanks : Pattern := .star (.char (.single ' ')) true

/-- A minus sign, or none. -/
def minus : Pattern := .upTo (.char (.single '-')) 1 true

/-- A point. -/
def point : Pattern := .char (.single '.')

/-- Digits on both sides of a point. -/
def degrees : Pattern := .seq minus (.seq digits (.seq point digits))

/-- Digits, perhaps a point, and perhaps digits again. -/
def amount : Pattern := .seq digits (.seq (.upTo point 1 true) (.star (.char .digit) true))

/-- One of two letters. -/
def letter (a b : Char) : Pattern := .char (.union (.single a) (.single b))

/-- The columns of a report before its block. -/
def columns : List Form :=
  [[.captured 0 twoDigits, .captured 1 twoDigits, .captured 2 twoDigits],
    [.captured 3 twoDigits, .captured 4 twoDigits, .captured 5 twoDigits],
    [.captured 6 (letter 'A' 'V')],
    [.passed blanks, .captured 7 degrees],
    [.captured 8 (letter 'N' 'S')],
    [.passed blanks, .captured 9 degrees],
    [.optional 10 (letter 'E' 'W')],
    [.captured 11 amount],
    [.captured 12 amount],
    [.captured 13 (.seq minus amount)],
    [.captured 14 digits],
    [.captured 15 digits],
    [.captured 16 digits],
    [.captured 17 digits],
    [.passed digits],
    [.captured 18 hexDigits]]

/-- The form of a report. -/
def form : Form := Form.separated ',' columns ++ [.captured 19 (.star (.char .any) true)]

/-- The pattern of a report is that of its form, with a group for each field. -/
theorem pattern?_eq : pattern? = some ⟨form.pattern, 20⟩ := by decide +kernel

theorem isPlain_form : form.IsPlain := by
  unfold Form.IsPlain
  decide +kernel

theorem nodup_groups_form : form.groups.Nodup := by decide +kernel

theorem lt_of_mem_groups_form : ∀ group ∈ form.groups, group < 20 := by decide +kernel

/-! ### Fields -/

/-- A field that holds something. -/
def present (field : Option String) : Option String := field.filter (! ·.isEmpty)

/-- Time and place in the fields of a report. -/
def fix (f : Nat → Option String) : Position :=
  { Position.blank protocolName with
    fixTime := TimeOrder.dmyHms.instant? ([f 0, f 1, f 2, f 3, f 4, f 5].map intOf)
    valid := f 6 == some "A"
    latitude := (CoordinateForm.degHem.value? [f 7, f 8]).getD 0
    longitude := (CoordinateForm.degHem.value? [f 9, f 10]).getD 0
    speed := Units.knotsOfKph ((doubleOf (f 11)).getD 0)
    course := Units.normalizeCourse ((doubleOf (f 12)).getD 0)
    altitude := (doubleOf (f 13)).getD 0 }

/-- Time, place and readings in the fields of a report. -/
def readings (f : Nat → Option String) : Position :=
  let number (i : Nat) : Attribute := .integer ((intOf (f i)).getD 0)
  ((((fix f).set "sat" (number 14)).set "rssi" (number 15)).set "batteryLevel" (number 16)).set
    "steps" (number 17)

/-- The position in the fields of a report. -/
def told (f : Nat → Option String) : Position :=
  withBlock (withStatus (readings f) ((hexOf (f 18)).getD 0)) (f 19)

/-- Twenty fields are as many as are read. -/
theorem read_range (f : Nat → Option String) (total : Nat) :
    read ⟨(List.range 20).map f, total⟩ = .ok (told fun i => present (f i), ⟨[], total⟩) := rfl

/-! ### Entries -/

/-- Whether an amount has digits behind a point. -/
def HasFraction (a : Amount) : Prop := ∃ digits, a.fraction = some digits ∧ digits ≠ []

/-- What a watch enters into a report. -/
structure Entries where
  date : Date
  hour : Nat
  minute : Nat
  second : Nat
  valid : Bool
  latitude : Amount
  south : Bool
  longitude : Amount
  west : Bool
  speed : Amount
  course : Amount
  altitude : Amount
  /-- Whether the altitude has a minus sign. -/
  below : Bool
  satellites : Numeral 10
  signal : Numeral 10
  battery : Numeral 10
  steps : Numeral 10
  /-- The count that is passed over. -/
  tumbles : Numeral 10
  status : Numeral 16
  block : String
  isReal : date.isReal = true
  year_mem : 1970 ≤ date.year ∧ date.year ≤ 2069
  hour_lt : hour < 24
  minute_lt : minute < 60
  second_lt : second < 60
  latitude_hasFraction : HasFraction latitude
  longitude_hasFraction : HasFraction longitude
  satellites_lt : satellites.value < 2 ^ 31
  signal_lt : signal.value < 2 ^ 31
  battery_lt : battery.value < 2 ^ 31
  steps_lt : steps.value < 2 ^ 31
  status_lt : status.value < 2 ^ 32

namespace Entries

variable (e : Entries)

/-- The year in its century. -/
def shortYear : Nat := (e.date.year % 100).toNat

/-- Two digits for each of three numbers. -/
def triple (a b c : Nat) : List Char :=
  Instant.padded 2 a ++ (Instant.padded 2 b ++ Instant.padded 2 c)

/-- The altitude with its sign. -/
def signedAltitude : List Char := if e.below then '-' :: e.altitude.digits else e.altitude.digits

/-- The texts of the columns. -/
def fields : List (List Char) :=
  [triple e.date.day e.date.month e.shortYear,
    triple e.hour e.minute e.second,
    [if e.valid then 'A' else 'V'],
    e.latitude.digits,
    [if e.south then 'S' else 'N'],
    e.longitude.digits,
    [if e.west then 'W' else 'E'],
    e.speed.digits,
    e.course.digits,
    e.signedAltitude,
    e.satellites.digits,
    e.signal.digits,
    e.battery.digits,
    e.steps.digits,
    e.tumbles.digits,
    e.status.digits]

/-- The report. -/
def text : String := String.ofList (e.fields.flatMap (· ++ [',']) ++ e.block.toList)

/-- The text of each group. -/
def group : Nat → List Char
  | 0 => Instant.padded 2 e.date.day
  | 1 => Instant.padded 2 e.date.month
  | 2 => Instant.padded 2 e.shortYear
  | 3 => Instant.padded 2 e.hour
  | 4 => Instant.padded 2 e.minute
  | 5 => Instant.padded 2 e.second
  | 6 => [if e.valid then 'A' else 'V']
  | 7 => e.latitude.digits
  | 8 => [if e.south then 'S' else 'N']
  | 9 => e.longitude.digits
  | 10 => [if e.west then 'W' else 'E']
  | 11 => e.speed.digits
  | 12 => e.course.digits
  | 13 => e.signedAltitude
  | 14 => e.satellites.digits
  | 15 => e.signal.digits
  | 16 => e.battery.digits
  | 17 => e.steps.digits
  | 18 => e.status.digits
  | _ => e.block.toList

/-- The instant that is entered. -/
def instant : Instant :=
  ⟨86400 * e.date.dayNumber + (3600 * e.hour + 60 * e.minute + e.second : Nat), 0⟩

end Entries

/-! ### Columns take what is entered -/

/-- A text that starts with no blank has none passed before it. -/
theorem takes_blanks {group : Nat} {p : Pattern} {c : Char} {w : List Char} {caught : Captures}
    (noBlank : c ≠ ' ') :
    Form.Takes [.passed blanks, .captured group p] (c :: w) caught ↔
      c :: w ∈ p.language ∧ caught = [(group, c :: w)] := by
  constructor
  · rintro ⟨u, v, _, more, ⟨blank, rfl⟩, rest, whole, rfl⟩
    have none : u = [] := by
      cases u with
      | nil => rfl
      | cons d others =>
        obtain ⟨rfl, -⟩ := List.cons.inj whole
        exact absurd (has_single.1 (mem_language_star_char.1 blank c List.mem_cons_self)) noBlank
    rw [none, List.nil_append] at whole
    rw [whole]
    exact Form.takes_captured.1 rest
  · intro h
    exact ⟨[], c :: w, [], caught, ⟨mem_language_star_char.2 (by simp), rfl⟩,
      Form.takes_captured.2 h, rfl, rfl⟩

theorem takes_triple {i j k : Nat} {u v w : List Char} (hu : u ∈ twoDigits.language)
    (hv : v ∈ twoDigits.language) (hw : w ∈ twoDigits.language) {caught : Captures} :
    Form.Takes [.captured i twoDigits, .captured j twoDigits, .captured k twoDigits]
      (u ++ (v ++ w)) caught ↔ caught = [(i, u), (j, v), (k, w)] := by
  have two {u : List Char} (mem : u ∈ twoDigits.language) : u.length = 2 :=
    (mem_language_times_char.1 mem).1
  constructor
  · rintro ⟨u', _, _, _, ⟨memU, rfl⟩, ⟨v', _, _, _, ⟨memV, rfl⟩, rest, rfl, rfl⟩, whole, rfl⟩
    obtain ⟨memW, rfl⟩ := Form.takes_captured.1 rest
    obtain ⟨rfl, tail⟩ := List.append_inj whole (by rw [two hu, two memU])
    obtain ⟨rfl, rfl⟩ := List.append_inj tail (by rw [two hv, two memV])
    rfl
  · rintro rfl
    have last : Form.Takes [.captured k twoDigits] w [(k, w)] := Form.takes_captured.2 ⟨hw, rfl⟩
    exact ⟨u, v ++ w, _, _, ⟨hu, rfl⟩, ⟨v, w, _, _, ⟨hv, rfl⟩, last, rfl, rfl⟩, rfl, rfl⟩

theorem has_digit {c : Char} (h : Text.isAsciiDigit c = true) : CharSet.digit.has c = true := by
  have range := Decimal.isAsciiDigit_iff.1 h
  rw [CharSet.has, Text.isDigit, if_pos (by omega)]
  exact h

theorem mem_digits (n : Numeral 10) : n.digits ∈ digits.language :=
  mem_language_plus_char.2
    ⟨n.digits_ne_nil, fun c mem => has_digit (Decimal.isAsciiDigit_of_isDigit (n.isDigit c mem))⟩

theorem has_hexDigit_iff {c : Char} :
    (CharSet.unions [.range '0' '9', .range 'a' 'f', .range 'A' 'F']).has c = true ↔
      48 ≤ c.toNat ∧ c.toNat ≤ 57 ∨ 97 ≤ c.toNat ∧ c.toNat ≤ 102 ∨ 65 ≤ c.toNat ∧ c.toNat ≤ 70 := by
  have bounds (a b : Char) :
      (CharSet.range a b).has c = (decide (a.toNat ≤ c.toNat) && decide (c.toNat ≤ b.toNat)) := rfl
  simp only [CharSet.unions, CharSet.has_union, bounds, Bool.or_eq_true, Bool.and_eq_true,
    decide_eq_true_eq]
  rfl

theorem mem_hexDigits (n : Numeral 16) : n.digits ∈ hexDigits.language :=
  mem_language_plus_char.2
    ⟨n.digits_ne_nil, fun c mem => has_hexDigit_iff.2 (Numeral.toNat_of_isDigit (n.isDigit c mem))⟩

theorem single_mem_char {set : CharSet} {c : Char} (has : set.has c = true) :
    [c] ∈ (Pattern.char set).language :=
  ⟨c, has, rfl⟩

theorem mem_amount (a : Amount) : a.digits ∈ amount.language := by
  refine Language.append_mem_mul (mem_digits a.whole) ?_
  unfold Amount.tail
  cases known : a.fraction with
  | none =>
    exact ⟨[], mem_language_optional.2 (.inl rfl), [], mem_language_star_char.2 (by simp), rfl⟩
  | some f =>
    refine ⟨['.'], mem_language_optional.2 (.inr (single_mem_char (by decide))), f, ?_, rfl⟩
    exact mem_language_star_char.2 fun c mem => has_digit (a.isDigit f known c mem)

theorem mem_degrees {a : Amount} (fraction : HasFraction a) : a.digits ∈ degrees.language := by
  obtain ⟨f, known, nonempty⟩ := fraction
  have tail : a.tail = ['.'] ++ f := by rw [Amount.tail, known]; rfl
  refine ⟨[], mem_language_optional.2 (.inl rfl), a.digits, ?_, rfl⟩
  rw [Amount.digits, tail]
  refine Language.append_mem_mul (mem_digits a.whole)
    (Language.append_mem_mul (single_mem_char (by decide)) ?_)
  exact mem_language_plus_char.2 ⟨nonempty, fun c mem => has_digit (a.isDigit f known c mem)⟩

theorem mem_twoDigits {n : Nat} (small : n < 100) : Instant.padded 2 n ∈ twoDigits.language := by
  obtain ⟨length, isDigit, -⟩ := padded_two small
  exact mem_language_times_char.2
    ⟨length, fun c mem => has_digit (Decimal.isAsciiDigit_of_isDigit (isDigit c mem))⟩

namespace Entries

variable (e : Entries)

theorem date_lt : e.date.day < 100 ∧ e.date.month < 100 := Date.day_lt_of_isReal e.isReal

theorem shortYear_lt : e.shortYear < 100 := by
  rw [shortYear]
  omega

/-- The year of two digits is the one that is entered. -/
theorem expandYear_shortYear : expandYear e.shortYear = e.date.year :=
  expandYear_emod e.year_mem.1 e.year_mem.2

theorem mem_signedAltitude : e.signedAltitude ∈ (seq minus amount).language := by
  unfold signedAltitude
  split
  · exact ⟨['-'], mem_language_optional.2 (.inr (single_mem_char (by decide))), _,
      mem_amount _, rfl⟩
  · exact ⟨[], mem_language_optional.2 (.inl rfl), _, mem_amount _, rfl⟩

theorem takes_degrees {a : Amount} (fraction : HasFraction a) {group : Nat} {caught : Captures} :
    Form.Takes [.passed blanks, .captured group degrees] a.digits caught ↔
        caught = [(group, a.digits)] := by
  obtain ⟨c, rest, shape, isDigit⟩ := a.head_digits
  have mem := mem_degrees fraction
  have noBlank : c ≠ ' ' := by
    rintro rfl
    exact absurd isDigit (by decide)
  rw [shape] at mem ⊢
  rw [takes_blanks noBlank]
  exact and_iff_right mem

/-- Each column takes its own entry, in one way. -/
theorem filled : Form.Filled columns e.fields
    [[(0, e.group 0), (1, e.group 1), (2, e.group 2)],
      [(3, e.group 3), (4, e.group 4), (5, e.group 5)],
      [(6, e.group 6)], [(7, e.group 7)], [(8, e.group 8)], [(9, e.group 9)], [(10, e.group 10)],
      [(11, e.group 11)], [(12, e.group 12)], [(13, e.group 13)], [(14, e.group 14)],
      [(15, e.group 15)], [(16, e.group 16)], [(17, e.group 17)], [], [(18, e.group 18)]] := by
  have captured {group : Nat} {p : Pattern} {w : List Char} (mem : w ∈ p.language)
      (caught : Captures) :
      Form.Takes [.captured group p] w caught ↔ caught = [(group, w)] :=
    Form.takes_captured.trans (and_iff_right mem)
  have below {n : Nat} (small : n < 60) : n < 100 := Nat.lt_trans small (by decide)
  refine .cons (fun _ => ?_) <| .cons (fun _ => ?_) <| .cons (captured ?_) <| .cons (fun _ => ?_) <|
    .cons (captured ?_) <| .cons (fun _ => ?_) <| .cons (fun _ => ?_) <| .cons
      (captured (mem_amount _)) <|
    .cons (captured (mem_amount _)) <| .cons (captured e.mem_signedAltitude) <|
    .cons (captured (mem_digits _)) <| .cons (captured (mem_digits _)) <| .cons
      (captured (mem_digits _)) <|
    .cons (captured (mem_digits _)) <| .cons (fun _ => ?_) <| .cons
      (captured (mem_hexDigits _)) .nil
  · exact takes_triple (mem_twoDigits e.date_lt.1) (mem_twoDigits e.date_lt.2)
      (mem_twoDigits e.shortYear_lt)
  · exact takes_triple (mem_twoDigits (Nat.lt_trans e.hour_lt (by decide)))
      (mem_twoDigits (below e.minute_lt)) (mem_twoDigits (below e.second_lt))
  · apply single_mem_char
    cases e.valid <;> decide
  · exact takes_degrees e.latitude_hasFraction
  · apply single_mem_char
    cases e.south <;> decide
  · exact takes_degrees e.longitude_hasFraction
  · refine (Form.takes_optional (List.cons_ne_nil _ _)).trans (and_iff_right (single_mem_char ?_))
    cases e.west <;> decide
  · exact Form.takes_passed.trans (and_iff_right (mem_digits _))

/-- The fields of a report are the texts of its entries. -/
theorem ofMatch?_text :
    Fields.ofMatch? ⟨form.pattern, 20⟩ e.text =
      some ⟨(List.range 20).map fun i => some (String.ofList (e.group i)), 20⟩ := by
  have avoid : ∀ column ∈ columns, ∀ part ∈ column, part.inner.avoids ',' = true := by
    decide +kernel
  have last (caught : Captures) :
      Form.Takes [.captured 19 (.star (.char .any) true)] e.block.toList caught ↔
      caught = [(19, e.group 19)] :=
    Form.takes_captured.trans
      (and_iff_right (mem_language_star_char.2 fun c _ => CharSet.has_any c))
  have takes (caught : Captures) :
      form.Takes (e.fields.flatMap (· ++ [',']) ++ e.block.toList) caught ↔ _ :=
    e.filled.takes_iff avoid
  simp only [last] at takes
  have matched := match?_of_takes 20 isPlain_form nodup_groups_form lt_of_mem_groups_form
    ((takes _).2 ⟨_, rfl, rfl⟩) fun other h => by
      obtain ⟨_, rfl, whole⟩ := (takes other).1 h
      exact whole
  rw [Fields.ofMatch?, text, String.toList_ofList, matched]
  rfl

/-- What the report of some entries tells. -/
structure Tells (p : Position) : Prop where
  fixTime : p.fixTime = some e.instant
  valid : p.valid = e.valid
  latitude : ∃ x, Decimal.read? e.latitude.digits = some x ∧ p.latitude = if e.south then -x else x
  longitude : ∃ x, Decimal.read? e.longitude.digits = some x ∧ p.longitude = if e.west then -x
    else x
  speed : ∃ x, Decimal.read? e.speed.digits = some x ∧ p.speed = Units.knotsOfKph x
  course : ∃ x, Decimal.read? e.course.digits = some x ∧ p.course = Units.normalizeCourse x
  altitude : Decimal.read? e.signedAltitude = some p.altitude
  satellites : p.get? "sat" = some (.integer e.satellites.value)
  signal : p.get? "rssi" = some (.integer e.signal.value)
  battery : p.get? "batteryLevel" = some (.integer e.battery.value)
  steps : p.get? "steps" = some (.integer e.steps.value)
  alarm : p.get? "alarm" = (Alarm.text? e.status.value).map .text
  motion : p.get? "motion" = if Bits.isSet e.status.value Alarm.motionBit then some (.bool true)
    else none
  network : p.network =
    if (Surroundings.ofText e.block).network.isEmpty then
      none else some (Surroundings.ofText e.block).network

theorem instant?_eq : TimeOrder.dmyHms.instant?
    [some (e.date.day : Int), some (e.date.month : Int), some (e.shortYear : Int),
      some (e.hour : Int), some (e.minute : Int), some (e.second : Int)] = some e.instant := by
  have nat (n : Nat) : natOf? n = some n := by simp [natOf?]
  have years := e.year_mem
  have span : Date.firstYear ≤ e.date.year ∧ e.date.year ≤ Date.lastYear := by
    rw [Date.firstYear, Date.lastYear]
    omega
  simp only [TimeOrder.instant?, instantOf?, nat, expandYear_shortYear, Option.bind_eq_bind,
    Option.bind_some]
  rw [Instant.ofFields?]
  simp [e.isReal, span, e.hour_lt, e.minute_lt, e.second_lt, instant]

/-- The text of a group as a field. -/
def field (i : Nat) : Option String := present (some (String.ofList (e.group i)))

theorem position?_text : position? e.text = some (told e.field) := by
  simp only [position?, pattern?_eq, ofMatch?_text, Option.bind_eq_bind, Option.bind_some,
    read_range]
  rfl

theorem present_ofList {cs : List Char} (nonempty : cs ≠ []) :
    present (some (String.ofList cs)) = some (String.ofList cs) := by
  have : (String.ofList cs).isEmpty = false := by
    rw [← Bool.not_eq_true, String.isEmpty_iff]
    intro empty
    exact nonempty (by simpa using congrArg String.toList empty)
  rw [present, Option.filter_some, this]
  rfl

theorem intOf_present_padded {n : Nat} (small : n < 100) :
    intOf (present (some (String.ofList (Instant.padded 2 n)))) = some (n : Int) := by
  rw [present_ofList, intOf_padded small]
  rintro empty
  simpa [empty] using (padded_two small).1

theorem intOf_present_numeral {n : Numeral 10} (fits : n.value < 2 ^ 31) :
    intOf (present (some (String.ofList n.digits))) = some (n.value : Int) := by
  rw [present_ofList n.digits_ne_nil]
  exact intOf_numeral fits

theorem digits_ne_nil (a : Amount) : a.digits ≠ [] := by
  obtain ⟨c, rest, shape, -⟩ := a.head_digits
  rw [shape]
  exact List.cons_ne_nil _ _

theorem doubleOf_present_amount (a : Amount) :
    doubleOf (present (some (String.ofList a.digits))) = Decimal.read? a.digits := by
  rw [present_ofList (digits_ne_nil a), doubleOf_amount]

/-- A coordinate is negative in one of its hemispheres, and as it was read in the other. -/
theorem coordinate_eq (a : Amount) {x : Float} (read : Decimal.read? a.digits = some x)
    (plus minus : Char) (inMinus : hemisphered (some (String.ofList [minus])) x = -x.abs)
    (inPlus : hemisphered (some (String.ofList [plus])) x = x) (negative : Bool) :
    CoordinateForm.degHem.value? [present (some (String.ofList a.digits)),
        present (some (String.ofList [if negative then minus else plus]))] =
      some (if negative then -x else x) := by
  rw [CoordinateForm.value?, doubleOf_present_amount, read, present_ofList (List.cons_ne_nil _ _),
    Option.map_some]
  cases negative
  · exact congrArg some inPlus
  · rw [a.abs_of_read? read] at inMinus
    exact congrArg some inMinus

/-! ### The position -/

theorem exists_withStatus (p : Position) (status : Nat) :
    ∃ attributes, withStatus p status = { p with attributes } := by
  have set? : ∃ attributes, p.set? "alarm" ((Alarm.text? status).map .text) =
      { p with attributes } := by
    cases Alarm.text? status <;> exact ⟨_, rfl⟩
  obtain ⟨attributes, set?⟩ := set?
  unfold withStatus
  dsimp only
  rw [set?]
  split <;> exact ⟨_, rfl⟩

/-- What neither attributes nor networks change is as in the fix. -/
theorem told_eq_fix {α : Type} (part : Position → α)
    (attributes : ∀ (p : Position) attributes, part { p with attributes } = part p)
    (network : ∀ (p : Position) network, part { p with network } = part p)
    (f : Nat → Option String) : part (told f) = part (fix f) := by
  have block (p : Position) (b : Option String) : part (withBlock p b) = part p := by
    cases b
    · rfl
    · exact network p _
  obtain ⟨changed, status⟩ := exists_withStatus (readings f) ((hexOf (f 18)).getD 0)
  rw [told, block, status, attributes]
  exact attributes (fix f) _

theorem get?_set (p : Position) (key other : String) (value : Attribute) :
    (p.set key value).get? other = if key = other then some value else p.get? other :=
  Table.get?_put _ _ _ _

theorem get?_withBlock (p : Position) (block : Option String) (key : String) :
    (withBlock p block).get? key = p.get? key := by
  cases block <;> rfl

theorem get?_withStatus (p : Position) (status : Nat) (key : String) :
    (withStatus p status).get? key =
      if key = "motion" ∧ Bits.isSet status Alarm.motionBit = true then some (.bool true)
      else if key = "alarm" then ((Alarm.text? status).map .text).or (p.get? key)
        else p.get? key := by
  have alarm : (p.set? "alarm" ((Alarm.text? status).map .text)).get? key =
      if key = "alarm" then ((Alarm.text? status).map .text).or (p.get? key) else p.get? key := by
    cases Alarm.text? status with
    | none => simp [Position.set?]
    | some names =>
      rw [Option.map_some, Position.set?, get?_set]
      by_cases same : key = "alarm"
      · simp [same]
      · simp [same, Ne.symm same]
  unfold withStatus
  by_cases motion : Bits.isSet status Alarm.motionBit = true
  · simp only [motion, if_true, get?_set, alarm, and_true, eq_comm (a := "motion")]
  · simp only [motion, and_false, if_false, alarm, Bool.false_eq_true]

/-- The networks of a report are those of its block. -/
theorem network_told (f : Nat → Option String) {block : String}
    (last : f 19 = present (some block)) :
    (told f).network =
      if (Surroundings.ofText block).network.isEmpty then
          none else some (Surroundings.ofText block).network := by
  obtain ⟨attributes, status⟩ := exists_withStatus (readings f) ((hexOf (f 18)).getD 0)
  rw [told, status, last, present, Option.filter_some]
  split
  · rfl
  · rename_i empty
    have empty : block = "" := by simpa using empty
    subst empty
    rfl

/-- What is read under a key. -/
theorem get?_readings (f : Nat → Option String) (key : String) :
    (readings f).get? key =
      if key = "steps" then some (.integer ((intOf (f 17)).getD 0))
      else if key = "batteryLevel" then some (.integer ((intOf (f 16)).getD 0))
      else if key = "rssi" then some (.integer ((intOf (f 15)).getD 0))
      else if key = "sat" then some (.integer ((intOf (f 14)).getD 0))
      else none := by
  have blank : (fix f).get? key = none := rfl
  simp only [readings, get?_set, blank, eq_comm (b := key)]

/-- What fields with a status tell under a key. -/
theorem get?_told_of_status (f : Nat → Option String) {status : Nat}
    (read : (hexOf (f 18)).getD 0 = status) (key : String) :
    (told f).get? key =
      if key = "motion" ∧ Bits.isSet status Alarm.motionBit = true then some (.bool true)
      else if key = "alarm" then ((Alarm.text? status).map .text).or ((readings f).get? key)
      else (readings f).get? key := by
  rw [told, get?_withBlock, read, get?_withStatus]

/-- The altitude is read with its sign. -/
theorem doubleOf_signedAltitude : doubleOf (e.field 13) = Decimal.read? e.signedAltitude := by
  have nonempty : e.signedAltitude ≠ [] := by
    unfold signedAltitude
    split
    · exact List.cons_ne_nil _ _
    · exact digits_ne_nil _
  show doubleOf (present (some (String.ofList e.signedAltitude))) = _
  rw [present_ofList nonempty, signedAltitude]
  split
  · exact doubleOf_neg_amount _
  · exact doubleOf_amount _

theorem exists_signedAltitude : ∃ x, Decimal.read? e.signedAltitude = some x := by
  unfold signedAltitude
  split
  · exact ⟨_, Amount.read?_neg_digits _⟩
  · exact ⟨_, Amount.read?_digits _⟩

/-- The moment of a report is the one that is entered. -/
theorem instant?_field :
    TimeOrder.dmyHms.instant?
      ([e.field 0, e.field 1, e.field 2, e.field 3, e.field 4, e.field 5].map intOf) =
      some e.instant := by
  have below {n : Nat} (small : n < 60) : n < 100 := Nat.lt_trans small (by decide)
  have number {i n : Nat} (entered : e.group i = Instant.padded 2 n) (small : n < 100) :
      intOf (e.field i) = some (n : Int) := by
    rw [field, entered, intOf_present_padded small]
  simp only [List.map_cons, List.map_nil, number (i := 0) rfl e.date_lt.1,
    number (i := 1) rfl e.date_lt.2,
    number (i := 2) rfl e.shortYear_lt, number (i := 3) rfl (Nat.lt_trans e.hour_lt (by decide)),
    number (i := 4) rfl (below e.minute_lt), number (i := 5) rfl (below e.second_lt), instant?_eq]

/-- The status is the one that is entered. -/
theorem hexOf_field : (hexOf (e.field 18)).getD 0 = e.status.value := by
  show (hexOf (present (some (String.ofList e.status.digits)))).getD 0 = _
  rw [present_ofList e.status.digits_ne_nil]
  exact congrArg (·.getD 0) (hexOf_numeral e.status_lt)

/-- What a report tells under a key. -/
theorem get?_told (key : String) :
    (told e.field).get? key =
      if key = "motion" ∧ Bits.isSet e.status.value Alarm.motionBit = true then some (.bool true)
      else if key = "alarm" then
        ((Alarm.text? e.status.value).map .text).or ((readings e.field).get? key)
      else (readings e.field).get? key :=
  get?_told_of_status _ (e.hexOf_field) key

/-- A report tells what was entered. -/
theorem tells_position? : ∃ p, position? e.text = some p ∧ e.Tells p := by
  refine ⟨_, e.position?_text, ?_⟩
  have latitude := Amount.read?_digits e.latitude
  have longitude := Amount.read?_digits e.longitude
  have speed := Amount.read?_digits e.speed
  have course := Amount.read?_digits e.course
  obtain ⟨altitude, readAltitude⟩ := e.exists_signedAltitude
  have number {i : Nat} {n : Numeral 10} (entered : e.group i = n.digits)
      (fits : n.value < 2 ^ 31) :
      (intOf (e.field i)).getD 0 = n.value := by
    rw [field, entered, intOf_present_numeral fits, Option.getD_some]
  constructor
  case fixTime =>
    rw [told_eq_fix (·.fixTime) (fun _ _ => rfl) (fun _ _ => rfl)]
    exact e.instant?_field
  case valid =>
    rw [told_eq_fix (·.valid) (fun _ _ => rfl) (fun _ _ => rfl)]
    show (present (some (String.ofList [if e.valid then 'A' else 'V'])) == some "A") = e.valid
    cases e.valid <;> rfl
  case latitude =>
    refine ⟨_, latitude, ?_⟩
    rw [told_eq_fix (·.latitude) (fun _ _ => rfl) (fun _ _ => rfl)]
    exact congrArg (·.getD 0) (coordinate_eq e.latitude latitude 'N' 'S' rfl rfl e.south)
  case longitude =>
    refine ⟨_, longitude, ?_⟩
    rw [told_eq_fix (·.longitude) (fun _ _ => rfl) (fun _ _ => rfl)]
    exact congrArg (·.getD 0) (coordinate_eq e.longitude longitude 'E' 'W' rfl rfl e.west)
  case speed =>
    refine ⟨_, speed, ?_⟩
    rw [told_eq_fix (·.speed) (fun _ _ => rfl) (fun _ _ => rfl)]
    show Units.knotsOfKph ((doubleOf (present (some (String.ofList e.speed.digits)))).getD 0) = _
    rw [doubleOf_present_amount, speed]
    rfl
  case course =>
    refine ⟨_, course, ?_⟩
    rw [told_eq_fix (·.course) (fun _ _ => rfl) (fun _ _ => rfl)]
    show Units.normalizeCourse
      ((doubleOf (present (some (String.ofList e.course.digits)))).getD 0) = _
    rw [doubleOf_present_amount, course]
    rfl
  case altitude =>
    rw [told_eq_fix (·.altitude) (fun _ _ => rfl) (fun _ _ => rfl), readAltitude]
    show some altitude = some ((doubleOf (e.field 13)).getD 0)
    rw [e.doubleOf_signedAltitude, readAltitude]
    rfl
  case satellites => simp [get?_told, get?_readings, number (i := 14) rfl e.satellites_lt]
  case signal => simp [get?_told, get?_readings, number (i := 15) rfl e.signal_lt]
  case battery => simp [get?_told, get?_readings, number (i := 16) rfl e.battery_lt]
  case steps => simp [get?_told, get?_readings, number (i := 17) rfl e.steps_lt]
  case alarm => simp [get?_told, get?_readings]
  case motion => simp [get?_told, get?_readings]
  case network =>
    apply network_told
    show present (some (String.ofList e.block.toList)) = _
    rw [String.ofList_toList]

end Entries

end TrackerGateway.Watch.Report
