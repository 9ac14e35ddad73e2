import TrackerGateway.Proofs.Text.Integers
import TrackerGateway.Time.Duration

/-!
# Spans of time come back as they were written

What is read as a span has seconds of 64 bits (`Bounded`), since every addition checks that. A
span within these bounds is written as numbers with units that add up to it (`Pieces`), each
smaller than the one before, so that no addition on the way back is refused (`ofText?_toText`).
-/

namespace TrackerGateway.Duration

/-! ### Bounds -/

/-- Whether the seconds of so many nanoseconds fit in 64 bits. -/
def Bounded (total : Nat) : Prop := total / second < 2 ^ 64

theorem word?_eq_some_iff {n m : Nat} : word? n = some m ↔ n < 2 ^ 64 ∧ n = m := by
  unfold word?
  split
  · rename_i fits
    simp only [Option.some.injEq]
    exact ⟨fun same => ⟨fits, same⟩, fun h => h.2⟩
  · rename_i large
    constructor
    · intro wrong
      cases wrong
    · rintro ⟨fits, -⟩
      exact absurd fits large

theorem bounded_of_parts {seconds nanoseconds : Nat} (small : seconds < 2 ^ 64)
    (below : nanoseconds < second) : Bounded (seconds * second + nanoseconds) := by
  unfold Bounded
  rw [Nat.mul_comm, Nat.mul_add_div (by decide), Nat.div_eq_of_lt below]
  exact small

theorem bounded_of_add? {total count grain sum : Nat} (added : add? total count grain = some sum) :
    Bounded sum := by
  unfold add? at added
  obtain ⟨n, -, rest⟩ := Option.bind_eq_some_iff.1 added
  split at rest
  · obtain ⟨part, -, rest⟩ := Option.bind_eq_some_iff.1 rest
    obtain ⟨seconds, fits, rest⟩ := Option.bind_eq_some_iff.1 rest
    cases rest
    obtain ⟨small, rfl⟩ := word?_eq_some_iff.1 fits
    exact bounded_of_parts small (Nat.mod_lt part (by decide))
  · obtain ⟨seconds, fits, rest⟩ := Option.bind_eq_some_iff.1 rest
    cases rest
    obtain ⟨small, rfl⟩ := word?_eq_some_iff.1 fits
    exact bounded_of_parts small (Nat.mod_lt total (by decide))

theorem bounded_of_addUnit? {total whole sum : Nat} {fraction : Option Fraction}
    {spelling : List Char} (added : addUnit? total whole fraction spelling = some sum) :
    Bounded sum := by
  unfold addUnit? at added
  obtain ⟨unit, -, rest⟩ := Option.bind_eq_some_iff.1 added
  obtain ⟨t, first, rest⟩ := Option.bind_eq_some_iff.1 rest
  cases fraction with
  | none =>
    cases rest
    exact bounded_of_add? first
  | some f =>
    obtain ⟨grain, -, rest⟩ := Option.bind_eq_some_iff.1 rest
    obtain ⟨scaled, -, rest⟩ := Option.bind_eq_some_iff.1 rest
    exact bounded_of_add? rest

theorem bounded_of_readOn {total sum : Nat} {reading : Reading} {cs : List Char}
    (bounded : Bounded total) (read : readOn total reading cs = some sum) : Bounded sum := by
  induction cs generalizing total reading with
  | nil =>
    cases reading with
    | item =>
      cases read
      exact bounded
    | whole n => cases read
    | fraction whole part => cases read
    | unit whole part letters => exact bounded_of_addUnit? read
  | cons c rest ih =>
    cases reading with
    | item =>
      rw [readOn] at read
      split at read
      · exact ih bounded read
      · split at read
        · exact ih bounded read
        · cases read
    | whole n =>
      rw [readOn] at read
      split at read
      · obtain ⟨m, -, read⟩ := Option.bind_eq_some_iff.1 read
        exact ih bounded read
      · split at read
        · exact ih bounded read
        split at read
        · exact ih bounded read
        split at read
        · exact ih bounded read
        · cases read
    | fraction whole part =>
      rw [readOn] at read
      split at read
      · obtain ⟨numerator, -, read⟩ := Option.bind_eq_some_iff.1 read
        obtain ⟨denominator, -, read⟩ := Option.bind_eq_some_iff.1 read
        exact ih bounded read
      · split at read
        · exact ih bounded read
        split at read
        · exact ih bounded read
        · cases read
    | unit whole part letters =>
      rw [readOn] at read
      split at read
      · obtain ⟨t, added, read⟩ := Option.bind_eq_some_iff.1 read
        exact ih (bounded_of_addUnit? added) read
      · split at read
        · obtain ⟨t, added, read⟩ := Option.bind_eq_some_iff.1 read
          exact ih (bounded_of_addUnit? added) read
        split at read
        · exact ih bounded read
        · cases read

/-- What is read as a span has seconds of 64 bits. -/
theorem bounded_of_ofText? {text : String} {d : Duration} (read : ofText? text = some d) :
    Bounded d.nanoseconds := by
  have zero : Bounded 0 := show 0 / second < 2 ^ 64 by decide
  unfold ofText? at read
  split at read
  · cases read
    exact zero
  split at read
  · cases read
  · obtain ⟨sum, found, rfl⟩ := Option.map_eq_some_iff.1 read
    exact bounded_of_readOn zero found

theorem Bounded.le {total most : Nat} (bounded : Bounded most) (le : total ≤ most) :
    Bounded total :=
  Nat.lt_of_le_of_lt (Nat.div_le_div_right le) bounded

/-! ### Sums -/

theorem add?_seconds {total count : Nat} (bounded : Bounded (total + count * second)) :
    add? total count second = some (total + count * second) := by
  unfold Bounded at bounded
  have split : (total + count * second) / second = total / second + count :=
    Nat.add_mul_div_right total count (by decide)
  rw [split] at bounded
  have here : word? count = some count :=
    word?_eq_some_iff.2 ⟨Nat.lt_of_le_of_lt (Nat.le_add_left ..) bounded, rfl⟩
  have sum : word? (total / second + count) = some (total / second + count) :=
    word?_eq_some_iff.2 ⟨bounded, rfl⟩
  have all := Nat.div_add_mod total second
  unfold add?
  rw [here, Option.bind_eq_bind, Option.bind_some, if_neg (by decide), sum, Option.bind_some]
  rw [Nat.add_mul]
  congr 1
  rw [Nat.mul_comm] at all
  omega

theorem add?_nanoseconds {total count : Nat} (few : count < second)
    (bounded : Bounded (total + count)) : add? total count 1 = some (total + count) := by
  unfold Bounded at bounded
  have all := Nat.div_add_mod total second
  have below := Nat.mod_lt total (show 0 < second by decide)
  -- The nanoseconds of both carry at most one second.
  have carry := Nat.div_add_mod (total % second + count) second
  have split : (total + count) / second = total / second + (total % second + count) / second := by
    conv => lhs; rw [← all, Nat.add_assoc, Nat.mul_add_div (by decide)]
  rw [split] at bounded
  have limit : 2 * second < 2 ^ 64 := by decide
  have here : word? count = some count := word?_eq_some_iff.2 ⟨by omega, rfl⟩
  have part : word? (total % second + count) = some (total % second + count) :=
    word?_eq_some_iff.2 ⟨by omega, rfl⟩
  have sum := word?_eq_some_iff.2 ⟨bounded, rfl⟩
  unfold add?
  rw [here, Option.bind_eq_bind, Option.bind_some, if_pos rfl, part, Option.bind_some, sum,
    Option.bind_some, Nat.add_mul]
  congr 1
  rw [Nat.mul_comm] at all carry
  omega

/-! ### Reading a number with its unit -/

open Text.Integer (valueAfter)

theorem digit?_of_isDigit {c : Char} {d : Nat} (known : Text.Integer.digit? 10 c = some d) :
    digit? c = some d := by
  have digits : ∀ d < 10, digit? (Nat.digitChar d) = some d := by decide
  obtain ⟨small, rfl⟩ := Text.Integer.digit?_eq_some_iff.1 known
  exact digits d small

theorem readOn_digits {digits : List Char}
    (isDigit : ∀ c ∈ digits, (Text.Integer.digit? 10 c).isSome = true) {total n : Nat}
    (fits : valueAfter 10 n digits < 2 ^ 64) (rest : List Char) :
    readOn total (.whole n) (digits ++ rest) =
        readOn total (.whole (valueAfter 10 n digits)) rest := by
  induction digits generalizing n with
  | nil => rfl
  | cons c digits ih =>
    obtain ⟨d, known⟩ := Option.isSome_iff_exists.1 (isDigit c List.mem_cons_self)
    have step : valueAfter 10 n (c :: digits) = valueAfter 10 (10 * n + d) digits := by
      rw [valueAfter, List.foldl_cons, known]
      rfl
    rw [step] at fits ⊢
    have small : word? (10 * n + d) = some (10 * n + d) :=
      word?_eq_some_iff.2
        ⟨Nat.lt_of_le_of_lt (Text.Integer.le_valueAfter (by decide) _ digits) fits, rfl⟩
    rw [List.cons_append, readOn, digit?_of_isDigit known]
    show (word? (10 * n + d)).bind _ = _
    rw [small, Option.bind_some]
    exact ih (fun c member => isDigit c (List.mem_cons_of_mem _ member)) fits

theorem readOn_count {count : Nat} (fits : count < 2 ^ 64) (total : Nat) (rest : List Char) :
    readOn total .item ((toString count).toList ++ rest) = readOn total (.whole count) rest := by
  obtain ⟨isDigit, value⟩ := Text.Integer.valueAfter_toDigits count
  rw [Nat.toString_eq_repr, Nat.toList_repr]
  obtain ⟨c, digits, shape⟩ :=
    List.exists_cons_of_ne_nil (Nat.toDigits_ne_nil (n := count) (b := 10))
  rw [shape] at isDigit value ⊢
  obtain ⟨d, known⟩ := Option.isSome_iff_exists.1 (isDigit c List.mem_cons_self)
  have step : valueAfter 10 0 (c :: digits) = valueAfter 10 d digits := by
    rw [valueAfter, List.foldl_cons, known, Nat.mul_zero, Nat.zero_add]
    rfl
  rw [step] at value
  rw [List.cons_append, readOn, digit?_of_isDigit known]
  show readOn total (.whole d) (digits ++ rest) = _
  rw [readOn_digits (fun c member => isDigit c (List.mem_cons_of_mem _ member))
    (by rw [value]; exact fits), value]

theorem digit?_of_isUnitLetter {c : Char} (letter : isUnitLetter c = true) :
    digit? c = none ∧ Text.isBlank c = false := by
  have range : (97 ≤ c.toNat ∧ c.toNat ≤ 122) ∨ (65 ≤ c.toNat ∧ c.toNat ≤ 90) ∨ c.toNat = 181 := by
    simp only [isUnitLetter, Text.isAsciiLetter, Bool.or_eq_true, Bool.and_eq_true,
      decide_eq_true_eq, beq_iff_eq, or_assoc] at letter
    exact letter.imp id (Or.imp id fun same => by rw [same]; rfl)
  constructor
  · refine if_neg ?_
    rw [Decimal.isAsciiDigit_iff]
    omega
  · simp only [Text.isBlank, Text.inRanges, Text.blankRanges, List.any_cons, List.any_nil,
      Bool.or_false, Bool.or_eq_false_iff, Bool.and_eq_false_iff, decide_eq_false_iff_not]
    omega

theorem readOn_letters {letters : List Char} (all : ∀ c ∈ letters, isUnitLetter c = true)
    (total whole : Nat) (seen rest : List Char) :
    readOn total (.unit whole none seen) (letters ++ rest) =
      readOn total (.unit whole none (letters.reverse ++ seen)) rest := by
  induction letters generalizing seen with
  | nil => rfl
  | cons c letters ih =>
    have letter := all c List.mem_cons_self
    obtain ⟨noDigit, visible⟩ := digit?_of_isUnitLetter letter
    rw [List.cons_append, readOn, noDigit]
    dsimp only
    rw [if_neg (by simp [visible]), if_pos letter,
      ih fun c member => all c (List.mem_cons_of_mem _ member)]
    simp

/-- A number with a unit adds an amount. -/
structure Reads (piece : String) (amount : Nat) : Prop where
  last : ∀ total, Bounded (total + amount) → readOn total .item piece.toList = some (total + amount)
  more : ∀ total rest, Bounded (total + amount) →
    readOn total .item (piece.toList ++ ' ' :: rest) = readOn (total + amount) .item rest

/-- A number of a unit under one of its names, as far as adding it is not refused. -/
structure Part (count : Nat) (name : String) (measure : Measure) : Prop where
  fits : count < 2 ^ 64
  some_there : name.toList ≠ []
  letters : name.toList.all isUnitLetter = true
  known : unit? name = some measure
  adds : ∀ total, Bounded (total + count * measure.size) →
    add? total (count * (measure.size / measure.grain)) measure.grain =
      some (total + count * measure.size)

variable {count : Nat} {name : String} {measure : Measure}

theorem Part.reads (part : Part count name measure) :
    Reads s!"{count}{name}" (count * measure.size) := by
  obtain ⟨fits, some_there, all, known, adds⟩ := part
  have letters := List.all_eq_true.1 all
  have split : (s!"{count}{name}").toList = (toString count).toList ++ name.toList := by
    simp [toString]
  have unit (total : Nat) (rest : List Char) :
      readOn total .item ((s!"{count}{name}").toList ++ rest) =
      readOn total (.unit count none name.toList.reverse) rest := by
    obtain ⟨c, tail, shape⟩ := List.exists_cons_of_ne_nil some_there
    rw [shape] at letters split ⊢
    have letter := letters c List.mem_cons_self
    obtain ⟨noDigit, visible⟩ := digit?_of_isUnitLetter letter
    rw [split, List.append_assoc, readOn_count fits, List.cons_append, readOn, noDigit]
    dsimp only
    rw [if_neg (by simp [visible]), if_pos letter,
      readOn_letters fun c member => letters c (List.mem_cons_of_mem _ member)]
    simp
  have added (total : Nat) (bounded : Bounded (total + count * measure.size)) :
      addUnit? total count none name.toList.reverse.reverse =
          some (total + count * measure.size) := by
    rw [List.reverse_reverse, addUnit?, String.ofList_toList, known]
    show (add? total _ _).bind _ = _
    rw [adds total bounded]
    rfl
  constructor
  · intro total bounded
    rw [← List.append_nil (s!"{count}{name}").toList, unit, readOn]
    exact added total bounded
  · intro total rest bounded
    rw [unit]
    show (addUnit? total count none name.toList.reverse.reverse).bind _ = _
    rw [added total bounded]
    rfl

/-! ### Writing -/

/-- Numbers with units that add an amount together. -/
inductive Pieces : List String → Nat → Prop where
  | nil : Pieces [] 0
  | cons {piece : String} {amount : Nat} {pieces : List String} {amounts : Nat}
    (here : Reads piece amount)
    (rest : Pieces pieces amounts) : Pieces (piece :: pieces) (amount + amounts)

theorem Pieces.append {pieces more : List String} {amounts further : Nat}
    (first : Pieces pieces amounts) (second : Pieces more further) :
    Pieces (pieces ++ more) (amounts + further) := by
  induction first with
  | nil => rwa [List.nil_append, Nat.zero_add]
  | cons here rest ih =>
    rw [List.cons_append, Nat.add_assoc]
    exact .cons here ih

theorem Pieces.single {piece : String} {amount : Nat} (here : Reads piece amount) :
    Pieces [piece] amount :=
  .cons here .nil

theorem readOn_pieces {pieces : List String} {amounts total : Nat} (written : Pieces pieces amounts)
    (some_there : pieces ≠ []) (bounded : Bounded (total + amounts)) :
    readOn total .item (" ".intercalate pieces).toList = some (total + amounts) := by
  induction written generalizing total with
  | nil => exact absurd rfl some_there
  | @cons piece amount pieces amounts here rest ih =>
    rw [← Nat.add_assoc] at bounded ⊢
    -- What has been added up at any moment is a part of the whole, which is bounded.
    match pieces, rest with
    | [], .nil =>
      rw [String.intercalate_singleton, Nat.add_zero]
      exact here.last total bounded
    | next :: pieces, rest =>
      have step : (" ".intercalate (piece :: next :: pieces)).toList =
          piece.toList ++ ' ' :: (" ".intercalate (next :: pieces)).toList := by
        simp [String.toList_intercalate]
      rw [step, here.more total _ (bounded.le (Nat.le_add_right ..))]
      exact ih (List.cons_ne_nil _ _) bounded

theorem Part.pieces (part : Part count name measure) :
    Pieces (partText count name) (count * measure.size) := by
  unfold partText
  split
  · rename_i zero
    rw [zero, Nat.zero_mul]
    exact .nil
  · exact .single part.reads

theorem Part.plural (part : Part count name measure) (known : unit? (name ++ "s") = some measure) :
    Part count (name ++ "s") measure where
  fits := part.fits
  some_there := by simp [part.some_there]
  letters := by
    rw [String.toList_append, List.all_append, part.letters]
    rfl
  known := known
  adds := part.adds

theorem Part.pieces_plural (part : Part count name measure)
    (known : unit? (name ++ "s") = some measure) :
    Pieces (countText count name) (count * measure.size) := by
  unfold countText
  split
  · rename_i zero
    rw [zero, Nat.zero_mul]
    exact .nil
  split
  · rename_i one
    subst one
    exact .single part.reads
  · have several := part.plural known
    generalize plural : name ++ "s" = names at several
    have same : s!"{count}{name}s" = s!"{count}{names}" := by
      simp [toString, ← plural, String.append_assoc]
    rw [same]
    exact .single several.reads

theorem Part.seconds {n : Nat} {fractionGrain : Option Nat} (fits : count < 2 ^ 64)
    (some_there : name.toList ≠ []) (letters : name.toList.all isUnitLetter = true)
    (known : unit? name = some ⟨n * second, second, fractionGrain⟩) :
    Part count name ⟨n * second, second, fractionGrain⟩ := by
  refine ⟨fits, some_there, letters, known, fun total bounded => ?_⟩
  dsimp only at bounded ⊢
  rw [Nat.mul_div_cancel n (by decide)]
  rw [← Nat.mul_assoc] at bounded ⊢
  exact add?_seconds bounded

theorem Part.nanoseconds {n : Nat} {fractionGrain : Option Nat} (positive : 0 < n)
    (few : count * n < second) (some_there : name.toList ≠ [])
    (letters : name.toList.all isUnitLetter = true)
    (known : unit? name = some ⟨n, 1, fractionGrain⟩) : Part count name ⟨n, 1, fractionGrain⟩ := by
  have fits : count < 2 ^ 64 := by
    refine Nat.lt_trans (Nat.lt_of_le_of_lt (Nat.le_mul_of_pos_right count positive) few) ?_
    decide
  refine ⟨fits, some_there, letters, known, fun total bounded => ?_⟩
  dsimp only at bounded ⊢
  rw [Nat.div_one]
  exact add?_nanoseconds few bounded

/-- The parts of a span, the largest units first. -/
def parts (seconds nanoseconds : Nat) : List String :=
  let inYear := seconds % 31557600
  let inMonth := inYear % 2630016
  let inDay := inMonth % 86400
  countText (seconds / 31557600) "year" ++ countText (inYear / 2630016) "month" ++
    countText (inMonth / 86400) "day" ++ partText (inDay / 3600) "h" ++
    partText (inDay % 3600 / 60) "m" ++ partText (inDay % 60) "s" ++
    partText (nanoseconds / 1000000) "ms" ++ partText (nanoseconds / 1000 % 1000) "us" ++
    partText (nanoseconds % 1000) "ns"

theorem toText_eq (d : Duration) : d.toText =
    if d.nanoseconds = 0 then "0s"
    else " ".intercalate (parts (d.nanoseconds / second) (d.nanoseconds % second)) :=
  rfl

theorem pieces_parts {sec nano : Nat} (bounded : sec < 2 ^ 64) (below : nano < second) :
    Pieces (parts sec nano) (sec * second + nano) := by
  have fits {n : Nat} (le : n ≤ sec) : n < 2 ^ 64 := Nat.lt_of_le_of_lt le bounded
  have years : Part (sec / 31557600) "year" ⟨31557600 * second, second, some second⟩ :=
    .seconds (fits (by omega)) (by decide) rfl rfl
  have months : Part (sec % 31557600 / 2630016) "month" ⟨2630016 * second, second, some second⟩ :=
    .seconds (fits (by omega)) (by decide) rfl rfl
  have days : Part (sec % 31557600 % 2630016 / 86400) "day" ⟨86400 * second, second, some second⟩ :=
    .seconds (fits (by omega)) (by decide) rfl rfl
  have hours : Part (sec % 31557600 % 2630016 % 86400 / 3600) "h"
      ⟨3600 * second, second, some second⟩ :=
    .seconds (fits (by omega)) (by decide) rfl rfl
  have minutes : Part (sec % 31557600 % 2630016 % 86400 % 3600 / 60) "m"
      ⟨60 * second, second, some 1⟩ :=
    .seconds (fits (by omega)) (by decide) rfl rfl
  have seconds : Part (sec % 31557600 % 2630016 % 86400 % 60) "s" ⟨1 * second, second, some 1⟩ :=
    .seconds (fits (by omega)) (by decide) rfl rfl
  have millis : Part (nano / 1000000) "ms" ⟨1000000, 1, some 1⟩ :=
    .nanoseconds (by decide) (by omega) (by decide) rfl rfl
  have micros : Part (nano / 1000 % 1000) "us" ⟨1000, 1, some 1⟩ :=
    .nanoseconds (by decide) (by unfold second; omega) (by decide) rfl rfl
  have nanos : Part (nano % 1000) "ns" ⟨1, 1, none⟩ :=
    .nanoseconds (by decide) (by unfold second; omega) (by decide) rfl rfl
  have all := ((((((((years.pieces_plural rfl).append (months.pieces_plural rfl)).append
    (days.pieces_plural rfl)).append hours.pieces).append minutes.pieces).append
      seconds.pieces).append
    millis.pieces).append micros.pieces).append nanos.pieces
  have sum : sec / 31557600 * (31557600 * second) + sec % 31557600 / 2630016 * (2630016 * second) +
      sec % 31557600 % 2630016 / 86400 * (86400 * second) +
      sec % 31557600 % 2630016 % 86400 / 3600 * (3600 * second) +
      sec % 31557600 % 2630016 % 86400 % 3600 / 60 * (60 * second) +
      sec % 31557600 % 2630016 % 86400 % 60 * (1 * second) + nano / 1000000 * 1000000 +
      nano / 1000 % 1000 * 1000 + nano % 1000 * 1 = sec * second + nano := by
    unfold second
    omega
  rw [← sum]
  exact all

theorem readOn_blank {cs : List Char} (blank : cs.all Text.isBlank = true) (total : Nat) :
    readOn total .item cs = some total := by
  induction cs with
  | nil => rfl
  | cons c cs ih =>
    rw [List.all_cons, Bool.and_eq_true] at blank
    have noDigit : digit? c = none := by
      refine if_neg fun digit => ?_
      rw [Text.Numeral.isBlank_of_isDigit (Decimal.isDigit_of_isAsciiDigit digit)] at blank
      cases blank.1
    rw [readOn, noDigit]
    dsimp only
    rw [if_pos blank.1, ih blank.2]

/-- A span whose seconds have 64 bits is read back from its text. -/
theorem ofText?_toText {d : Duration} (bounded : Bounded d.nanoseconds) :
    ofText? d.toText = some d := by
  obtain ⟨total⟩ := d
  rw [toText_eq]
  split
  · rename_i zero
    cases zero
    rfl
  · rename_i positive
    have below := Nat.mod_lt total (show 0 < second by decide)
    have pieces := pieces_parts bounded below
    rw [Nat.div_add_mod'] at pieces
    have some_there : parts (total / second) (total % second) ≠ [] := by
      intro none
      rw [none] at pieces
      cases pieces
      exact positive rfl
    have bounded : Bounded (0 + total) := by rwa [Nat.zero_add]
    have read := readOn_pieces pieces some_there bounded
    rw [Nat.zero_add] at read
    unfold ofText?
    dsimp only
    rw [if_neg, if_neg, read]
    · rfl
    · intro blank
      rw [readOn_blank blank] at read
      exact positive (Option.some.inj read).symm
    · intro lone
      rw [lone] at read
      cases read

end TrackerGateway.Duration
