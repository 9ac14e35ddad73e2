import TrackerGateway.Proofs.Watch.Report

/-!
# What accepted reports say

The pattern of a report takes a run of digits of any length and of any script for a number; what
is read of a number is up to the accessor of its field. If the digits are ASCII digits, then the
coordinates, the speed, the course and the altitude are always read as what was sent, and a count
or the status just if it fits in 32 bits, else it is told as 0 (`agrees_of_accepted`).
-/

namespace TrackerGateway

open Text (Numeral)
open Decimal (Amount Signed)

/-- Whether all characters of a text are ASCII characters. -/
def Text.InAscii (cs : List Char) : Prop := ∀ c ∈ cs, c.toNat < 128

namespace Watch.Report

open Pattern Sentence
open Entries (present_ofList told_eq_fix get?_readings get?_told_of_status)

/-! ### Texts of the columns -/

theorem isAsciiDigit_of_has {c : Char} (ascii : c.toNat < 128) (has : CharSet.digit.has c = true) :
    Text.isAsciiDigit c = true := by
  rwa [CharSet.has, Text.isDigit, if_pos ascii] at has

theorem exists_numeral {w : List Char} (mem : w ∈ digits.language) (ascii : Text.InAscii w) :
    ∃ n : Numeral 10, n.digits = w := by
  obtain ⟨nonempty, has⟩ := mem_language_plus_char.1 mem
  refine ⟨⟨w, nonempty, fun c here => ?_⟩, rfl⟩
  exact Decimal.isDigit_of_isAsciiDigit (isAsciiDigit_of_has (ascii c here) (has c here))

theorem exists_numeral_hex {w : List Char} (mem : w ∈ hexDigits.language) :
    ∃ n : Numeral 16, n.digits = w := by
  obtain ⟨nonempty, has⟩ := mem_language_plus_char.1 mem
  have digit : ∀ n < 128,
      (CharSet.unions [.range '0' '9', .range 'a' 'f', .range 'A' 'F']).has (Char.ofNat n) = true →
        (Text.Integer.digit? 16 (Char.ofNat n)).isSome = true := by
    decide +kernel
  refine ⟨⟨w, nonempty, fun c here => ?_⟩, rfl⟩
  have ascii : c.toNat < 128 := by
    have range := has_hexDigit_iff.1 (has c here)
    omega
  have this := digit c.toNat ascii
  rw [Char.ofNat_toNat] at this
  exact this (has c here)

/-- A point, or none, between digits: without one, all of the digits are of the whole number. -/
theorem exists_amount {w : List Char} (mem : w ∈ amount.language) (ascii : Text.InAscii w) :
    ∃ a : Amount, a.digits = w := by
  obtain ⟨u, whole, _, ⟨v, between, x, behind, rfl⟩, rfl⟩ := mem
  obtain ⟨asciiU, asciiRest⟩ := List.forall_mem_append.1 ascii
  obtain ⟨-, asciiX⟩ := List.forall_mem_append.1 asciiRest
  have behind := mem_language_star_char.1 behind
  rcases mem_language_optional.1 between with rfl | point
  · obtain ⟨nonempty, has⟩ := mem_language_plus_char.1 whole
    have joined : u ++ x ∈ digits.language :=
      mem_language_plus_char.2
        ⟨List.append_ne_nil_of_left_ne_nil nonempty x, List.forall_mem_append.2 ⟨has, behind⟩⟩
    obtain ⟨n, same⟩ := exists_numeral joined ascii
    exact ⟨⟨n, none, nofun⟩, by rw [Amount.digits, same]; simp [Amount.tail]⟩
  · obtain ⟨n, rfl⟩ := exists_numeral whole asciiU
    obtain rfl := mem_language_single.1 point
    refine ⟨⟨n, some x, ?_⟩, rfl⟩
    rintro _ ⟨⟩ c here
    exact isAsciiDigit_of_has (asciiX c here) (behind c here)

theorem exists_signed {w : List Char} (mem : w ∈ (Pattern.seq minus amount).language)
    (ascii : Text.InAscii w) : ∃ s : Signed, s.digits = w := by
  obtain ⟨u, sign, v, mem, rfl⟩ := mem
  obtain ⟨a, rfl⟩ := exists_amount mem (List.forall_mem_append.1 ascii).2
  rcases mem_language_optional.1 sign with rfl | sign
  · exact ⟨⟨false, a⟩, rfl⟩
  · obtain rfl := mem_language_single.1 sign
    exact ⟨⟨true, a⟩, rfl⟩

theorem mem_signed_of_amount {w : List Char} (mem : w ∈ amount.language) :
    w ∈ (Pattern.seq minus amount).language :=
  ⟨[], mem_language_optional.2 (.inl rfl), w, mem, rfl⟩

theorem mem_signed_of_degrees {w : List Char} (mem : w ∈ degrees.language) :
    w ∈ (Pattern.seq minus amount).language := by
  obtain ⟨u, sign, _, ⟨v, whole, _, ⟨x, point, y, behind, rfl⟩, rfl⟩, rfl⟩ := mem
  have behind := (mem_language_plus_char.1 behind).2
  exact ⟨u, sign, _,
    ⟨v, whole, _, ⟨x, mem_language_optional.2 (.inr point), y, mem_language_star_char.2 behind,
    rfl⟩, rfl⟩, rfl⟩

/-! ### Accepted reports -/

theorem mem_form {part : Part} (here : part ∈ columns.flatten) : part ∈ form :=
  List.mem_append_left _ (Form.mem_separated here)

/-- The groups of an accepted report, those that cannot be missing with texts of their patterns. -/
theorem exists_groups {report : String} {pattern : Pattern.Compiled}
    (compiled : pattern? = some pattern) {fields : Fields}
    (accepted : Fields.ofMatch? pattern report = some fields) :
    ∃ group : Nat → Option String, fields = ⟨(List.range 20).map group, 20⟩ ∧
      ∀ i p, Part.captured i p ∈ form → ∃ w ∈ p.language, group i = some (String.ofList w) := by
  rw [pattern?_eq, Option.some.injEq] at compiled
  subst compiled
  obtain ⟨groups, matched, rfl⟩ := Option.map_eq_some_iff.1 accepted
  obtain ⟨caught, takes, rfl⟩ :=
    takes_of_match? isPlain_form nodup_groups_form lt_of_mem_groups_form matched
  refine ⟨fun i => (List.lookup i caught).map String.ofList, ?_, fun i p here => ?_⟩
  · simp only [List.map_map, List.length_map, List.length_range]
    rfl
  · obtain ⟨w, mem, found⟩ := exists_lookup_of_takes nodup_groups_form takes here
    exact ⟨w, mem, congrArg (Option.map String.ofList) found⟩

theorem position?_of_groups {report : String} {pattern : Pattern.Compiled}
    (compiled : pattern? = some pattern) {group : Nat → Option String}
    (accepted : Fields.ofMatch? pattern report = some ⟨(List.range 20).map group, 20⟩) :
    position? report = some (told fun i => present (group i)) := by
  simp only [position?, compiled, accepted, Option.bind_eq_bind, Option.bind_some, read_range]

/-- Whether the number in a field, if there is one, is in ASCII. -/
def PlainField (field : Option String) : Prop := ∀ s ∈ field, Text.InAscii s.toList

/-- Whether a field holds an amount that is read as the number nearest to it. -/
def Measured (field : Option String) (x : Float) : Prop :=
  ∃ s : Signed, field = some s.text ∧ doubleOf field = some x ∧ x = s.value

/-- Whether a field holds a numeral that is read and told if it fits in 32 bits with a sign, and
else told as 0. -/
def Counted (field : Option String) (told : Option Attribute) : Prop :=
  ∃ n : Numeral 10, field = some n.text ∧
    if n.value < 2 ^ 31 then intOf field = some (n.value : Int) ∧ told = some (.integer n.value)
    else intOf field = none ∧ told = some (.integer 0)

/-- Whether what a position says is what the groups of a report do. -/
structure Agrees (group : Nat → Option String) (p : Position) : Prop where
  latitude : PlainField (group 7) → ∃ x, Measured (group 7) x ∧ p.latitude = hemisphered (group 8) x
  longitude : PlainField (group 9) → ∃ x, Measured (group 9) x ∧
    p.longitude = hemisphered (group 10) x
  speed : PlainField (group 11) → ∃ x, Measured (group 11) x ∧ p.speed = Units.knotsOfKph x
  course : PlainField (group 12) → ∃ x, Measured (group 12) x ∧ p.course = Units.normalizeCourse x
  altitude : PlainField (group 13) → Measured (group 13) p.altitude
  satellites : PlainField (group 14) → Counted (group 14) (p.get? "sat")
  signal : PlainField (group 15) → Counted (group 15) (p.get? "rssi")
  battery : PlainField (group 16) → Counted (group 16) (p.get? "batteryLevel")
  steps : PlainField (group 17) → Counted (group 17) (p.get? "steps")
  status : ∃ (n : Numeral 16) (status : Nat), group 18 = some n.text ∧
    hexOf (group 18) = (if n.value < 2 ^ 32 then some n.value else none) ∧
    status = (if n.value < 2 ^ 32 then n.value else 0) ∧
    p.get? "alarm" = (Alarm.text? status).map .text ∧
    p.get? "motion" = if Bits.isSet status Alarm.motionBit then some (.bool true) else none

/-- An empty field names no hemisphere. -/
theorem hemisphered_present (field : Option String) (x : Float) :
    hemisphered (present field) x = hemisphered field x := by
  cases field with
  | none => rfl
  | some s =>
    by_cases empty : s = ""
    · rw [empty]
      rfl
    · have filled : s.isEmpty = false := by simpa using empty
      rw [present, Option.filter_some, filled]
      rfl

theorem digits_signed_ne_nil (s : Signed) : s.digits ≠ [] := by
  unfold Signed.digits
  split
  · exact List.cons_ne_nil _ _
  · exact Entries.digits_ne_nil _

section

variable {group : Nat → Option String}
  (caught : ∀ i p, Part.captured i p ∈ form → ∃ w ∈ p.language, group i = some (String.ofList w))
include caught

theorem exists_measured {i : Nat} {p : Pattern} (here : Part.captured i p ∈ form)
    (signed : ∀ w ∈ p.language, w ∈ (Pattern.seq minus amount).language)
    (plain : PlainField (group i)) :
    ∃ x, Measured (group i) x ∧ doubleOf (present (group i)) = some x := by
  obtain ⟨w, mem, entered⟩ := caught i p here
  rw [entered] at plain ⊢
  have ascii := plain _ rfl
  rw [String.toList_ofList] at ascii
  obtain ⟨s, rfl⟩ := exists_signed (signed w mem) ascii
  have read : doubleOf (some (String.ofList s.digits)) = some s.value := doubleOf_signed s
  rw [present_ofList (digits_signed_ne_nil s)]
  exact ⟨s.value, ⟨s, rfl, read, rfl⟩, read⟩

theorem exists_counted {i : Nat} (here : Part.captured i digits ∈ form)
    (plain : PlainField (group i)) :
    Counted (group i) (some (.integer ((intOf (present (group i))).getD 0))) := by
  obtain ⟨w, mem, entered⟩ := caught i digits here
  rw [entered] at plain ⊢
  have ascii := plain _ rfl
  rw [String.toList_ofList] at ascii
  obtain ⟨n, rfl⟩ := exists_numeral mem ascii
  have read := intOf_text n
  rw [present_ofList n.digits_ne_nil]
  refine ⟨n, rfl, ?_⟩
  rw [Numeral.text] at read
  rw [read]
  split
  · exact ⟨rfl, rfl⟩
  · exact ⟨rfl, rfl⟩

theorem exists_status :
    ∃ n : Numeral 16, group 18 = some n.text ∧
      hexOf (group 18) = (if n.value < 2 ^ 32 then some n.value else none) ∧
      (hexOf (present (group 18))).getD 0 = if n.value < 2 ^ 32 then n.value else 0 := by
  obtain ⟨w, mem, entered⟩ := caught 18 hexDigits (mem_form (by simp [columns]))
  obtain ⟨n, rfl⟩ := exists_numeral_hex mem
  have read := hexOf_text n
  refine ⟨n, entered, ?_⟩
  rw [entered, present_ofList n.digits_ne_nil]
  rw [Numeral.text] at read
  rw [read]
  split
  · exact ⟨rfl, rfl⟩
  · exact ⟨rfl, rfl⟩

/-- An accepted report tells what its groups say. -/
theorem agrees_told : Agrees group (told fun i => present (group i)) := by
  have counted {i : Nat} {key : String} (here : Part.captured i digits ∈ form)
      (found : (told fun i => present (group i)).get? key =
        some (.integer ((intOf (present (group i))).getD 0))) (plain : PlainField (group i)) :
      Counted (group i) ((told fun i => present (group i)).get? key) :=
    found ▸ exists_counted caught here plain
  have coordinate {i j : Nat} (here : Part.captured i degrees ∈ form)
      (plain : PlainField (group i)) :
      ∃ x, Measured (group i) x ∧
        (CoordinateForm.degHem.value? [present (group i), present (group j)]).getD 0 =
            hemisphered (group j) x := by
    obtain ⟨x, measured, read⟩ := exists_measured caught here (fun _ => mem_signed_of_degrees) plain
    refine ⟨x, measured, ?_⟩
    rw [CoordinateForm.value?, read, Option.map_some, Option.getD_some, hemisphered_present]
  constructor
  case latitude =>
    intro plain
    rw [told_eq_fix (·.latitude) (fun _ _ => rfl) (fun _ _ => rfl)]
    exact coordinate (mem_form (by simp [columns])) plain
  case longitude =>
    intro plain
    rw [told_eq_fix (·.longitude) (fun _ _ => rfl) (fun _ _ => rfl)]
    exact coordinate (mem_form (by simp [columns])) plain
  case speed =>
    intro plain
    obtain ⟨x, measured, read⟩ :=
      exists_measured caught (i := 11) (mem_form (by simp [columns]))
        (fun _ => mem_signed_of_amount) plain
    rw [told_eq_fix (·.speed) (fun _ _ => rfl) (fun _ _ => rfl)]
    exact ⟨x, measured, by rw [fix, read, Option.getD_some]⟩
  case course =>
    intro plain
    obtain ⟨x, measured, read⟩ :=
      exists_measured caught (i := 12) (mem_form (by simp [columns]))
        (fun _ => mem_signed_of_amount) plain
    rw [told_eq_fix (·.course) (fun _ _ => rfl) (fun _ _ => rfl)]
    exact ⟨x, measured, by rw [fix, read, Option.getD_some]⟩
  case altitude =>
    intro plain
    obtain ⟨x, measured, read⟩ :=
      exists_measured caught (i := 13) (mem_form (by simp [columns])) (fun _ mem => mem) plain
    rw [told_eq_fix (·.altitude) (fun _ _ => rfl) (fun _ _ => rfl)]
    rwa [fix, read, Option.getD_some]
  case satellites =>
    exact counted (mem_form (by simp [columns]))
      (by simp [get?_told_of_status _ rfl, get?_readings])
  case signal =>
    exact counted (mem_form (by simp [columns]))
      (by simp [get?_told_of_status _ rfl, get?_readings])
  case battery =>
    exact counted (mem_form (by simp [columns]))
      (by simp [get?_told_of_status _ rfl, get?_readings])
  case steps =>
    exact counted (mem_form (by simp [columns]))
      (by simp [get?_told_of_status _ rfl, get?_readings])
  case status =>
    obtain ⟨n, entered, read, status⟩ := exists_status caught
    have found := get?_told_of_status (fun i => present (group i)) status
    refine ⟨n, _, entered, read, rfl, ?_, ?_⟩
    · rw [found]
      simp [get?_readings]
    · rw [found]
      simp [get?_readings]

end

/-- A report that the pattern accepts tells a position, and that is what the accepted groups say:
their numbers are read and told as they were sent, up to counts and a status beyond 32 bits. -/
theorem agrees_of_accepted {report : String} {pattern : Pattern.Compiled}
    (compiled : pattern? = some pattern) {fields : Fields}
    (accepted : Fields.ofMatch? pattern report = some fields) :
    ∃ (group : Nat → Option String) (p : Position), fields = ⟨(List.range 20).map group, 20⟩ ∧
      position? report = some p ∧ Agrees group p := by
  obtain ⟨group, rfl, caught⟩ := exists_groups compiled accepted
  exact ⟨group, _, rfl, position?_of_groups compiled accepted, agrees_told caught⟩

/-- The groups of a report in which more satellites are counted than fit in 32 bits. -/
def sampleGroups : List String :=
  ["31", "01", "15", "13", "46", "52", "A", "22.5", "N", "113.8", "E", "0.1", "0", "5.",
    "3000000000", "60", "90", "0", "10010", ""]

def sampleOverflow : String := "310115,134652,A,22.5,N,113.8,E,0.1,0,5.,3000000000,60,90,0,0,10010,"

theorem accepted_sampleOverflow :
    Fields.ofMatch? ⟨form.pattern, 20⟩ sampleOverflow =
        some ⟨(List.range 20).map (sampleGroups[·]?), 20⟩ := by
  decide +kernel

theorem agrees_of_sampleOverflow :
    pattern? = some ⟨form.pattern, 20⟩ ∧
      Fields.ofMatch? ⟨form.pattern, 20⟩ sampleOverflow =
        some ⟨(List.range 20).map (sampleGroups[·]?), 20⟩ ∧
      ∃ (group : Nat → Option String) (p : Position),
        (⟨(List.range 20).map (sampleGroups[·]?), 20⟩ : Fields) = ⟨(List.range 20).map group, 20⟩ ∧
          position? sampleOverflow = some p ∧ Agrees group p :=
  ⟨pattern?_eq, accepted_sampleOverflow, agrees_of_accepted pattern?_eq accepted_sampleOverflow⟩

/-- The pattern takes more digits than the accessor, which then gives its default. -/
theorem not_read_of_sampleOverflow :
    ∃ (pattern : Pattern.Compiled) (fields : Fields) (p : Position), pattern? = some pattern ∧
      Fields.ofMatch? pattern sampleOverflow = some fields ∧
      fields.rest[14]? = some (some "3000000000") ∧
      intOf (some "3000000000") = none ∧ position? sampleOverflow = some p ∧
      p.get? "sat" = some (.integer 0) := by
  refine ⟨_, _, _, pattern?_eq, accepted_sampleOverflow, rfl, by decide +kernel,
    position?_of_groups pattern?_eq accepted_sampleOverflow, ?_⟩
  rw [get?_told_of_status _ rfl]
  have unread : intOf (present (sampleGroups[14]?)) = none := by decide +kernel
  simp [get?_readings, unread]

end Watch.Report
end TrackerGateway
