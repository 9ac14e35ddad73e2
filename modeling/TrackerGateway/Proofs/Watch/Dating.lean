import TrackerGateway.Proofs.Text.Digits
import TrackerGateway.Proofs.Text.Integers
import TrackerGateway.Proofs.Watch.Accepted
import TrackerGateway.Proofs.Watch.Telling

/-!
# The date of a report

The pattern of a report has two digits in each of six places, and not all such digits are a date
that exists and a time of day. A report of a watch that the directory knows is told whether they
are or not: what it lacks if they are not is the time of its fix (`fixTime_of_report`).
-/

namespace TrackerGateway

namespace Watch.Report

open Pattern Sentence
open Text (Numeral)
open Entries (present_ofList told_eq_fix)

/-- Any two ASCII digits are those of a number below a hundred. -/
theorem exists_padded {a b : Char} (first : Text.isAsciiDigit a = true)
    (second : Text.isAsciiDigit b = true) : ∃ n < 100, [a, b] = Instant.padded 2 n := by
  have all : ∀ x < 10, ∀ y < 10, Instant.padded 2 (10 * x + y) =
      [Char.ofNat (48 + x), Char.ofNat (48 + y)] := by
    decide +kernel
  have rangeA := Decimal.isAsciiDigit_iff.1 first
  have rangeB := Decimal.isAsciiDigit_iff.1 second
  refine ⟨10 * (a.toNat - 48) + (b.toNat - 48), by omega, ?_⟩
  rw [all _ (by omega) _ (by omega), Nat.add_sub_cancel' rangeA.1, Nat.add_sub_cancel' rangeB.1,
    Char.ofNat_toNat, Char.ofNat_toNat]

/-- Two digits are read if they are ASCII digits, as the number that they write. -/
theorem intOf_eq_some_iff {w : List Char} (mem : w ∈ twoDigits.language) {k : Int} :
    intOf (some (String.ofList w)) = some k ↔ ∃ n < 100, w = Instant.padded 2 n ∧ k = n := by
  obtain ⟨two, has⟩ := mem_language_times_char.1 mem
  constructor
  · intro read
    have clear : ∀ c ∈ w, Text.isBlank c = false :=
      fun c here => Text.isBlank_of_isDigit (has c here)
    rw [intOf, Option.bind_some, Text.trim_ofList clear, Text.Integer.decimal?,
      String.toList_ofList] at read
    have found : Text.Integer.read (.signed 32) 10 w = .ok k := by
      cases known : Text.Integer.read (.signed 32) 10 w with
      | error fault =>
        rw [known] at read
        cases read
      | ok n =>
        rw [known] at read
        cases read
        rfl
    obtain ⟨written, -⟩ := (Text.Integer.read_eq_ok_iff (by decide) (by decide)).1 found
    cases written with
    | plain n =>
      obtain ⟨a, b, shape⟩ : ∃ a b, n.digits = [a, b] := List.length_eq_two.1 two
      have ascii (c : Char) (here : c ∈ n.digits) : Text.isAsciiDigit c = true :=
        Decimal.isAsciiDigit_of_isDigit (n.isDigit c here)
      rw [shape] at ascii
      obtain ⟨m, small, padded⟩ := exists_padded (ascii a (by simp)) (ascii b (by simp))
      refine ⟨m, small, shape.trans padded, ?_⟩
      rw [Numeral.value, shape, padded, (padded_two small).2.2]
    | plus n => exact absurd (has '+' List.mem_cons_self) (by decide)
    | minus n => exact absurd (has '-' List.mem_cons_self) (by decide)
  · rintro ⟨n, small, rfl, rfl⟩
    exact intOf_padded small

/-- Whether the first six groups are two digits each of a day, a month and a year in its century,
and of an hour, a minute and a second, which are a date that exists and a time of day: those of
`t`. -/
def Dated (groups : List (Option String)) (t : Instant) : Prop :=
  ∃ (date : Date) (year hour minute second : Nat), year < 100 ∧ date.year = expandYear year ∧
    date.isReal = true ∧ hour < 24 ∧ minute < 60 ∧ second < 60 ∧
    groups.take 6 = [date.day, date.month, year, hour, minute, second].map
      (fun n => some (String.ofList (Instant.padded 2 n))) ∧
    t = ⟨86400 * date.dayNumber + (3600 * hour + 60 * minute + second : Nat), 0⟩

theorem instant?_six (a b c d e f : Option Int) :
    TimeOrder.dmyHms.instant? [a, b, c, d, e, f] =
      a.bind fun day => b.bind fun month => c.bind fun year => d.bind fun hour =>
        e.bind fun minute =>
        f.bind fun second => instantOf? year month day hour minute second := by
  cases a <;> cases b <;> cases c <;> cases d <;> cases e <;> cases f <;> rfl

theorem fixTime_told (f : Nat → Option String) :
    (told f).fixTime =
      TimeOrder.dmyHms.instant? [intOf (f 0), intOf (f 1), intOf (f 2), intOf (f 3), intOf (f 4),
          intOf (f 5)] :=
  told_eq_fix (·.fixTime) (fun _ _ => rfl) (fun _ _ => rfl) f

theorem valid_told (f : Nat → Option String) : (told f).valid = (f 6 == some "A") :=
  told_eq_fix (·.valid) (fun _ _ => rfl) (fun _ _ => rfl) f

section

variable {group : Nat → Option String}
  (caught : ∀ i p, Part.captured i p ∈ form → ∃ w ∈ p.language, group i = some (String.ofList w))
include caught

theorem intOf_group_eq_some_iff {i : Nat} (here : Part.captured i twoDigits ∈ form) {k : Int} :
    intOf (present (group i)) = some k ↔
      ∃ n < 100, group i = some (String.ofList (Instant.padded 2 n)) ∧ k = n := by
  obtain ⟨w, mem, entered⟩ := caught i twoDigits here
  have nonempty : w ≠ [] := by
    rintro rfl
    exact absurd (mem_language_times_char.1 mem).1 (by decide)
  rw [entered, present_ofList nonempty, intOf_eq_some_iff mem]
  simp only [Option.some.injEq, String.ofList_inj]

/-- The time of the fix is that of the first six groups just if they are dated. -/
theorem fixTime_told_eq_some_iff (t : Instant) :
    (told fun i => present (group i)).fixTime = some t ↔ Dated ((List.range 20).map group) t := by
  have two {i : Nat} (early : i < 6) {k : Int} : intOf (present (group i)) = some k ↔
      ∃ n < 100, group i = some (String.ofList (Instant.padded 2 n)) ∧ k = n := by
    refine intOf_group_eq_some_iff caught ?_
    have cases : i = 0 ∨ i = 1 ∨ i = 2 ∨ i = 3 ∨ i = 4 ∨ i = 5 := by omega
    rcases cases with rfl | rfl | rfl | rfl | rfl | rfl <;> exact mem_form (by simp [columns])
  have first : ((List.range 20).map group).take 6 =
      [group 0, group 1, group 2, group 3, group 4, group 5] := rfl
  have natural (n : Nat) : natOf? n = some n := by simp [natOf?]
  rw [fixTime_told, instant?_six, Dated, first]
  simp only [Option.bind_eq_some_iff, two (i := 0) (by decide), two (i := 1) (by decide),
    two (i := 2) (by decide),
    two (i := 3) (by decide), two (i := 4) (by decide), two (i := 5) (by decide)]
  constructor
  · rintro ⟨_, ⟨day, -, inDay, rfl⟩, _, ⟨month, -, inMonth, rfl⟩, _, ⟨year, short, inYear, rfl⟩, _,
      ⟨hour, -, inHour, rfl⟩, _, ⟨minute, -, inMinute, rfl⟩, _, ⟨second, -, inSecond, rfl⟩, made⟩
    simp only [instantOf?, natural, Option.bind_eq_bind, Option.bind_some] at made
    obtain ⟨shown, -⟩ := Instant.ofFields?_eq_some_iff.1 made
    obtain ⟨real, early, before, within, rfl⟩ := Instant.shows_iff.1 shown
    refine ⟨⟨expandYear year, month, day⟩, year, hour, minute, second, short, rfl, real, early,
      before, within, ?_, rfl⟩
    rw [inDay, inMonth, inYear, inHour, inMinute, inSecond]
    rfl
  · rintro ⟨date, year, hour, minute, second, short, century, real, early, before, within,
      texts, rfl⟩
    simp only [List.map_cons, List.map_nil, List.cons.injEq, and_true] at texts
    obtain ⟨inDay, inMonth, inYear, inHour, inMinute, inSecond⟩ := texts
    obtain ⟨day, month⟩ := Date.day_lt_of_isReal real
    have span : Date.firstYear ≤ date.year ∧ date.year ≤ Date.lastYear := by
      rw [century, expandYear, Date.firstYear, Date.lastYear]
      split
      · split <;> omega
      · omega
    refine ⟨_, ⟨date.day, day, inDay, rfl⟩, _, ⟨date.month, month, inMonth, rfl⟩, _,
      ⟨year, short, inYear, rfl⟩, _,
      ⟨hour, by omega, inHour, rfl⟩, _, ⟨minute, by omega, inMinute, rfl⟩, _,
      ⟨second, by omega, inSecond, rfl⟩, ?_⟩
    simp only [instantOf?, natural, Option.bind_eq_bind, Option.bind_some, ← century]
    exact Instant.ofFields?_eq_some_iff.2
      ⟨Instant.shows_iff.2 ⟨real, early, before, within, rfl⟩, span⟩

end

end Watch.Report

namespace Watch.Peer

open Sentence (Fields)
open Report (pattern?_eq exists_groups position?_of_groups fixTime_told valid_told
  fixTime_told_eq_some_iff)

variable {δ μ : Type} [Directory δ] [MediaStore μ]

/-- What comes of a report of a watch that the directory knows. -/
theorem exists_decode_of_report {frame : Bytes} {header : Header}
    (scanned : Header.scan frame = .complete header)
    (known : (Message.ofFrame header frame).type ∈ Report.types) (peer : Peer)
    {services : Services δ μ} {connection : ConnectionId}
    (resolves : services.Resolves connection header.deviceId) (receivedAt : Instant) :
    ∃ device, (peer.decode services connection receivedAt frame).1 =
      .ok ((Report.position? (Message.ofFrame header frame).text).map
        fun p => { p with deviceId := device }).toList := by
  obtain ⟨session, after, resolved⟩ := resolves.exists_eq
  refine ⟨session.deviceId, ?_⟩
  rw [decode_of_session scanned resolved]
  simp only [interpret_of_report known]
  rfl

/-- A report of a watch that the directory knows makes one position if the pattern accepts it, and
else none. The position has the time of its fix just if the report is dated. -/
theorem fixTime_of_report {frame : Bytes} {header : Header}
    (scanned : Header.scan frame = .complete header)
    (known : (Message.ofFrame header frame).type ∈ Report.types) (peer : Peer)
    {services : Services δ μ} {connection : ConnectionId}
    (resolves : services.Resolves connection header.deviceId) (receivedAt : Instant) :
    ∃ pattern, Report.pattern? = some pattern ∧
      (Fields.ofMatch? pattern (Message.ofFrame header frame).text = none →
        (peer.decode services connection receivedAt frame).1 = .ok []) ∧
      ∀ fields, Fields.ofMatch? pattern (Message.ofFrame header frame).text = some fields →
        ∃ p, (peer.decode services connection receivedAt frame).1 = .ok [p] ∧
          ∀ t, p.fixTime = some t ↔ Report.Dated fields.rest t := by
  obtain ⟨device, decoded⟩ := exists_decode_of_report scanned known peer resolves receivedAt
  refine ⟨_, pattern?_eq, fun refused => ?_, fun fields accepted => ?_⟩
  · rw [decoded, Report.position?, pattern?_eq]
    simp only [Option.bind_eq_bind, Option.bind_some, refused, Option.bind_none]
    rfl
  · obtain ⟨group, rfl, caught⟩ := exists_groups pattern?_eq accepted
    rw [decoded, position?_of_groups pattern?_eq accepted]
    exact ⟨_, rfl, fixTime_told_eq_some_iff caught⟩

/-- A report with a day that February does not have. -/
def sampleUndated : Bytes :=
  Utf8.encode "[3G*861000002*0036*UD,310215,134652,A,22.5,N,113.8,E,0,0,0,7,60,90,0,0,0,]"

def sampleUndatedHeader : Header := ⟨"3G", "861000002", none, 54, 19⟩

def sampleUndatedGroups : List String :=
  ["31", "02", "15", "13", "46", "52", "A", "22.5", "N", "113.8", "E", "0", "0", "0", "7", "60",
    "90", "0", "0", ""]

theorem scan_sampleUndated : Header.scan sampleUndated = .complete sampleUndatedHeader := by
  decide +kernel

theorem type_sampleUndated :
    (Message.ofFrame sampleUndatedHeader sampleUndated).type ∈ Report.types := by
  decide +kernel

theorem resolves_sampleUndated : sampleServices.Resolves ⟨0⟩ sampleUndatedHeader.deviceId :=
  Services.resolves_of_knows ⟨_, rfl⟩ _

theorem fixTime_of_sampleUndated :
    let decoded := (unknown.decode sampleServices ⟨0⟩ ⟨0, 0⟩ sampleUndated).1
    let text := (Message.ofFrame sampleUndatedHeader sampleUndated).text
    Header.scan sampleUndated = .complete sampleUndatedHeader ∧
      (Message.ofFrame sampleUndatedHeader sampleUndated).type ∈ Report.types ∧
      sampleServices.Resolves ⟨0⟩ sampleUndatedHeader.deviceId ∧
      ∃ pattern, Report.pattern? = some pattern ∧
      (Fields.ofMatch? pattern text = none → decoded = .ok []) ∧
        ∀ fields, Fields.ofMatch? pattern text = some fields →
          ∃ p, decoded = .ok [p] ∧ ∀ t, p.fixTime = some t ↔ Report.Dated fields.rest t :=
  ⟨scan_sampleUndated, type_sampleUndated, resolves_sampleUndated,
    fixTime_of_report scan_sampleUndated type_sampleUndated unknown resolves_sampleUndated ⟨0, 0⟩⟩

/-- A report that is not dated is told as a position that is valid, without the time of its fix. -/
theorem not_dated_of_sampleUndated :
    Header.scan sampleUndated = .complete sampleUndatedHeader ∧
      (Message.ofFrame sampleUndatedHeader sampleUndated).type ∈ Report.types ∧
      sampleServices.Resolves ⟨0⟩ sampleUndatedHeader.deviceId ∧
      ∃ p, (unknown.decode sampleServices ⟨0⟩ ⟨0, 0⟩ sampleUndated).1 = .ok [p] ∧ p.fixTime = none ∧
        p.valid = true := by
  have accepted : Fields.ofMatch? ⟨Report.form.pattern, 20⟩
        (Message.ofFrame sampleUndatedHeader sampleUndated).text =
        some ⟨(List.range 20).map (sampleUndatedGroups[·]?), 20⟩ := by
    decide +kernel
  let fields (i : Nat) : Option String := Report.present sampleUndatedGroups[i]?
  have undated : (Report.told fields).fixTime = none := (fixTime_told _).trans (by decide +kernel)
  have valid : (Report.told fields).valid = true := (valid_told _).trans (by decide +kernel)
  obtain ⟨device, decoded⟩ :=
    exists_decode_of_report scan_sampleUndated type_sampleUndated unknown resolves_sampleUndated
      ⟨0, 0⟩
  rw [position?_of_groups pattern?_eq accepted] at decoded
  exact ⟨scan_sampleUndated, type_sampleUndated, resolves_sampleUndated,
    { Report.told fields with deviceId := device }, decoded, undated, valid⟩

end Watch.Peer
end TrackerGateway
