import TrackerGateway.Proofs.Decimal.Magnitude
import TrackerGateway.Proofs.Text.Fronts
import TrackerGateway.Sentence.Fields

/-!
# Numbers as devices write them, and the fields that hold them

A numeral is digits of a radix, with as many zeros in front as its writer liked; an amount is a
decimal numeral with an optional point and a fraction. A field with a numeral that fits is read as
its value (`intOf_numeral`, `hexOf_numeral`), and one with an amount as the number that its text
stands for, which without a minus sign is its own magnitude (`doubleOf_amount`).
-/

namespace TrackerGateway

namespace Text

/-- Digits of a radix. -/
structure Numeral (radix : Nat) where
  digits : List Char
  digits_ne_nil : digits ≠ []
  isDigit : ∀ c ∈ digits, (Integer.digit? radix c).isSome = true

namespace Integer

/-- The number of digits that are read behind others. -/
def valueAfter (radix seen : Nat) (digits : List Char) : Nat :=
  digits.foldl (fun n c => radix * n + (digit? radix c).getD 0) seen

theorem le_valueAfter {radix : Nat} (positive : 0 < radix) (seen : Nat) (digits : List Char) :
    seen ≤ valueAfter radix seen digits := by
  induction digits generalizing seen with
  | nil => exact Nat.le_refl _
  | cons c rest ih =>
    calc seen ≤ radix * seen := Nat.le_mul_of_pos_left seen positive
      _ ≤ radix * seen + (digit? radix c).getD 0 := Nat.le_add_right _ _
      _ ≤ _ := ih _

theorem digit?_lt {radix : Nat} {c : Char} {d : Nat} (h : digit? radix c = some d) : d < radix := by
  simpa using (Option.filter_eq_some_iff.1 h).2

/-- Digits whose number is within the limit are read. -/
theorem magnitude_of_le {radix limit seen : Nat} {overflow : Fault} {digits : List Char}
    (isDigit : ∀ c ∈ digits, (digit? radix c).isSome = true)
    (fits : valueAfter radix seen digits ≤ limit) :
    magnitude radix limit overflow seen digits = .ok (valueAfter radix seen digits) := by
  induction digits generalizing seen with
  | nil => rfl
  | cons c rest ih =>
    obtain ⟨d, value⟩ := Option.isSome_iff_exists.1 (isDigit c List.mem_cons_self)
    have step : valueAfter radix seen (c :: rest) = valueAfter radix (radix * seen + d) rest := by
      rw [valueAfter, List.foldl_cons, value]
      rfl
    have below : radix * seen + d ≤ limit := by
      rw [step] at fits
      exact Nat.le_trans (le_valueAfter (Nat.zero_lt_of_lt (digit?_lt value)) _ rest) fits
    rw [magnitude, value]
    simp only [if_pos below]
    rw [step] at fits ⊢
    exact ih (fun c mem => isDigit c (List.mem_cons_of_mem _ mem)) fits

/-- Digits are read just if their number is within the limit, however many they are. -/
theorem magnitude_eq_ok_iff {radix limit seen n : Nat} {overflow : Fault} {digits : List Char}
    (within : seen ≤ limit) :
    magnitude radix limit overflow seen digits = .ok n ↔
      (∀ c ∈ digits, (digit? radix c).isSome = true) ∧ valueAfter radix seen digits = n ∧
          n ≤ limit := by
  constructor
  · intro read
    induction digits generalizing seen with
    | nil =>
      cases read
      exact ⟨by simp, rfl, within⟩
    | cons c rest ih =>
      rw [magnitude] at read
      cases known : digit? radix c with
      | none =>
        rw [known] at read
        cases read
      | some d =>
        simp only [known] at read
        split at read
        · rename_i below
          obtain ⟨others, number, small⟩ := ih below read
          refine ⟨List.forall_mem_cons.2 ⟨by rw [known]; rfl, others⟩, ?_, small⟩
          rw [← number, valueAfter, List.foldl_cons, known]
          rfl
        · cases read
  · rintro ⟨isDigit, rfl, small⟩
    exact magnitude_of_le isDigit small

end Integer

namespace Numeral

variable {radix : Nat}

/-- The numeral that a text is, where each character is a digit. -/
def ofText (text : String) (nonempty : text.toList ≠ [])
    (all : text.toList.all (fun c => (Integer.digit? radix c).isSome) = true) : Numeral radix :=
  ⟨text.toList, nonempty, List.all_eq_true.1 all⟩

/-- The number that is written. -/
def value (n : Numeral radix) : Nat := Integer.valueAfter radix 0 n.digits

/-- A numeral as text. -/
def text (n : Numeral radix) : String := String.ofList n.digits

theorem toNat_of_isDigit {c : Char} (h : (Integer.digit? radix c).isSome = true) :
    48 ≤ c.toNat ∧ c.toNat ≤ 57 ∨ 97 ≤ c.toNat ∧ c.toNat ≤ 102 ∨ 65 ≤ c.toNat ∧ c.toNat ≤ 70 := by
  have value : (Hex.value? c).isSome = true := by
    rw [Integer.digit?] at h
    cases known : Hex.value? c with
    | none => simp [known] at h
    | some d => rfl
  unfold Hex.value? at value
  split at value
  · rename_i range
    exact .inl range
  split at value
  · rename_i range
    exact .inr (.inl range)
  split at value
  · rename_i range
    exact .inr (.inr range)
  · cases value

theorem isBlank_of_isDigit {c : Char} (h : (Integer.digit? radix c).isSome = true) :
    isBlank c = false := by
  have range := toNat_of_isDigit h
  simp only [isBlank, inRanges, blankRanges, List.any_cons, List.any_nil, Bool.or_false,
    Bool.or_eq_false_iff, Bool.and_eq_false_iff, decide_eq_false_iff_not]
  omega

/-- Digits are read without a sign. -/
theorem read_eq_magnitude (n : Numeral radix) (range : Integer.Range) :
    Integer.read range radix n.digits =
      (Integer.magnitude radix range.greatest.toNat .tooLarge 0 n.digits).map fun value =>
        (value : Int) := by
  obtain ⟨digits, nonempty, isDigit⟩ := n
  have signless (c : Char) (mem : c ∈ digits) : c ≠ '+' ∧ c ≠ '-' := by
    have range := toNat_of_isDigit (isDigit c mem)
    constructor <;> rintro rfl <;> revert range <;> decide
  show Integer.read range radix digits = _
  unfold Integer.read
  split
  · exact absurd rfl nonempty
  · exact absurd rfl (signless '+' List.mem_cons_self).1
  · exact absurd rfl (signless '-' List.mem_cons_self).2
  · exact absurd rfl (signless '+' List.mem_cons_self).1
  · exact absurd rfl (signless '-' List.mem_cons_self).2
  · rfl

/-- A text of digits of a radix is read as its number if that is in the range, and else not at
all. -/
theorem toOption_read_digits (n : Numeral radix) {range : Integer.Range}
    (positive : 0 ≤ range.greatest) :
    (Integer.read range radix n.digits).toOption =
      if (n.value : Int) ≤ range.greatest then some (n.value : Int) else none := by
  have seen : 0 ≤ range.greatest.toNat := Nat.zero_le _
  rw [read_eq_magnitude]
  split
  · rename_i fits
    have below : n.value ≤ range.greatest.toNat := by omega
    rw [(Integer.magnitude_eq_ok_iff seen).2 ⟨n.isDigit, rfl, below⟩]
    rfl
  · rename_i large
    cases known : Integer.magnitude radix range.greatest.toNat .tooLarge 0 n.digits with
    | error fault => rfl
    | ok k =>
      obtain ⟨-, value, below⟩ := (Integer.magnitude_eq_ok_iff seen).1 known
      have value : n.value = k := value
      omega

end Numeral

theorem trimmed_of_clear {isPad : Char → Bool} {cs : List Char}
    (clear : ∀ c ∈ cs, isPad c = false) : trimmed isPad cs = cs := by
  have stays {cs : List Char} (clear : ∀ c ∈ cs, isPad c = false) : cs.dropWhile isPad = cs := by
    cases cs with
    | nil => rfl
    | cons c rest => rw [List.dropWhile_cons_of_neg (by simp [clear c List.mem_cons_self])]
  rw [trimmed, stays clear, stays (fun c mem => clear c (List.mem_reverse.1 mem)),
    List.reverse_reverse]

theorem trim_ofList {cs : List Char} (clear : ∀ c ∈ cs, isBlank c = false) :
    trim (String.ofList cs) = String.ofList cs := by
  rw [trim, String.toList_ofList, trimmed_of_clear clear]

theorem Numeral.trim_text {radix : Nat} (n : Numeral radix) : trim n.text = n.text :=
  trim_ofList fun c mem => isBlank_of_isDigit (n.isDigit c mem)

end Text

namespace Decimal

open Text (Numeral isAsciiDigit)

/-- A numeral, or one with a point and perhaps more digits. -/
structure Amount where
  whole : Numeral 10
  fraction : Option (List Char)
  isDigit : ∀ digits ∈ fraction, ∀ c ∈ digits, isAsciiDigit c = true

theorem isAsciiDigit_iff {c : Char} : isAsciiDigit c = true ↔ 48 ≤ c.toNat ∧ c.toNat ≤ 57 := by
  simp only [isAsciiDigit, Bool.and_eq_true, decide_eq_true_eq]
  rfl

theorem isAsciiDigit_of_isDigit {c : Char} (h : (Text.Integer.digit? 10 c).isSome = true) :
    isAsciiDigit c = true := by
  obtain ⟨d, known⟩ := Option.isSome_iff_exists.1 h
  obtain ⟨value, small⟩ := Option.filter_eq_some_iff.1 known
  have small : d < 10 := by simpa using small
  have range := Numeral.toNat_of_isDigit h
  unfold Hex.value? at value
  have above (c d : Char) : c ≤ d ↔ c.toNat ≤ d.toNat := Iff.rfl
  simp only [above] at value
  have : ('0'.toNat = 48 ∧ '9'.toNat = 57) ∧ ('a'.toNat = 97 ∧ 'f'.toNat = 102) ∧
      ('A'.toNat = 65 ∧ 'F'.toNat = 70) := by
    decide
  rw [isAsciiDigit_iff]
  split at value
  · omega
  split at value
  · cases value
    omega
  split at value
  · cases value
    omega
  · cases value

theorem isDigit_of_isAsciiDigit {c : Char} (h : isAsciiDigit c = true) :
    (Text.Integer.digit? 10 c).isSome = true := by
  have range := isAsciiDigit_iff.1 h
  have value : Hex.value? c = some (c.toNat - 48) := if_pos range
  have small : c.toNat - 48 < 10 := by omega
  rw [Text.Integer.digit?, value]
  simp [small]

namespace Amount

/-- A numeral, a point and the digits of a text. -/
def withFraction (whole : Numeral 10) (text : String) (all : text.toList.all isAsciiDigit = true) :
    Amount where
  whole := whole
  fraction := some text.toList
  isDigit := by
    rintro _ ⟨⟩
    exact List.all_eq_true.1 all

/-- What is behind the numeral. -/
def tail (a : Amount) : List Char := a.fraction.elim [] ('.' :: ·)

/-- An amount as it is written. -/
def digits (a : Amount) : List Char := a.whole.digits ++ a.tail

/-- The literal that is written. -/
def literal (a : Amount) : Literal := ⟨a.whole.digits, a.fraction.getD [], 0⟩

theorem whole_isAsciiDigit (a : Amount) : ∀ c ∈ a.whole.digits, Text.isAsciiDigit c = true :=
  fun c mem => isAsciiDigit_of_isDigit (a.whole.isDigit c mem)

theorem literal?_digits (a : Amount) : literal? a.digits = some a.literal := by
  have nonempty : a.whole.digits.isEmpty = false := by simpa using a.whole.digits_ne_nil
  have whole : a.digits.takeWhile isAsciiDigit = a.whole.digits ∧ a.digits.dropWhile isAsciiDigit =
      a.tail := by
    have stops : Text.Stops isAsciiDigit a.tail := by
      rw [tail]
      cases a.fraction with
      | none => exact Text.stops_nil
      | some f => exact Text.stops_cons (by decide) f
    exact ⟨Text.takeWhile_of_stops a.whole_isAsciiDigit stops,
      Text.dropWhile_of_stops a.whole_isAsciiDigit stops⟩
  simp only [literal?, whole.1, whole.2, tail, literal]
  cases known : a.fraction with
  | none => simp [nonempty, exponent?]
  | some f =>
    have more := a.isDigit f known
    have taken := List.takeWhile_eq_self_iff.2 more
    have dropped := List.dropWhile_eq_nil_iff.2 more
    simp only [Option.elim_some, taken, dropped, nonempty]
    rfl

theorem isBlank_digits (a : Amount) : ∀ c ∈ a.digits, Text.isBlank c = false := by
  have digit {c : Char} (h : Text.isAsciiDigit c = true) : Text.isBlank c = false := by
    have range := isAsciiDigit_iff.1 h
    simp only [Text.isBlank, Text.inRanges, Text.blankRanges, List.any_cons, List.any_nil,
      Bool.or_false, Bool.or_eq_false_iff, Bool.and_eq_false_iff, decide_eq_false_iff_not]
    omega
  intro c mem
  rcases List.mem_append.1 mem with mem | mem
  · exact digit (a.whole_isAsciiDigit c mem)
  · cases known : a.fraction with
    | none => simp [tail, known] at mem
    | some f =>
      simp only [tail, known, Option.elim_some, List.mem_cons] at mem
      rcases mem with rfl | mem
      · decide
      · exact digit (a.isDigit f known c mem)

theorem head_digits (a : Amount) :
    ∃ c rest, a.digits = c :: rest ∧ (Text.Integer.digit? 10 c).isSome = true := by
  obtain ⟨⟨whole, nonempty, isDigit⟩, fraction, more⟩ := a
  cases whole with
  | nil => exact absurd rfl nonempty
  | cons c rest => exact ⟨c, _, rfl, isDigit c List.mem_cons_self⟩

/-- An amount is no word. -/
theorem not_word (a : Amount) (c : Char) (word : List Char)
    (letter : Text.Integer.digit? 10 c = none) :
    String.ofList (a.digits.map Char.toLower) ≠ String.ofList (c :: word) := by
  obtain ⟨d, rest, shape, isDigit⟩ := a.head_digits
  have lower : d.toLower = d := by
    have range := isAsciiDigit_iff.1 (isAsciiDigit_of_isDigit isDigit)
    rw [Char.toLower, dif_neg]
    rintro ⟨above, -⟩
    have above : 65 ≤ d.toNat := above
    omega
  intro same
  have chars := congrArg String.toList same
  rw [String.toList_ofList, String.toList_ofList, shape, List.map_cons, lower] at chars
  obtain ⟨rfl, -⟩ := List.cons.inj chars
  rw [letter] at isDigit
  cases isDigit

theorem read?_of_unsigned (a : Amount) {negative : Bool} {text : List Char}
    (sign : unsigned text = (negative, a.digits)) :
    read? text = some (Float.ofBits (a.literal.toBits negative)) := by
  have inf := a.not_word 'i' ['n', 'f'] (by decide)
  have infinity := a.not_word 'i' ['n', 'f', 'i', 'n', 'i', 't', 'y'] (by decide)
  have nan := a.not_word 'n' ['a', 'n'] (by decide)
  rw [read?, sign]
  simp only
  rw [if_neg (not_or.2 ⟨inf, infinity⟩), if_neg nan, a.literal?_digits]
  rfl

theorem read?_digits (a : Amount) :
    read? a.digits = some (Float.ofBits (a.literal.toBits false)) := by
  apply a.read?_of_unsigned
  obtain ⟨c, rest, shape, isDigit⟩ := a.head_digits
  rw [shape]
  unfold unsigned
  split
  · rename_i same
    cases same
    exact absurd isDigit (by decide)
  · rename_i same
    cases same
    exact absurd isDigit (by decide)
  · rfl

theorem read?_neg_digits (a : Amount) :
    read? ('-' :: a.digits) = some (Float.ofBits (a.literal.toBits true)) :=
  a.read?_of_unsigned rfl

/-- A number that was read without a sign is its own magnitude. -/
theorem abs_of_read? (a : Amount) {x : Float} (h : read? a.digits = some x) : x.abs = x := by
  rw [read?_digits] at h
  cases h
  exact Binary64.abs_ofBits (Binary64.toNat_ofDecimal_lt _ _)

end Amount

/-- An amount, perhaps with a minus sign. -/
structure Signed where
  negative : Bool
  amount : Amount

namespace Signed

/-- A signed amount as it is written. -/
def digits (s : Signed) : List Char :=
  if s.negative then '-' :: s.amount.digits else s.amount.digits

def text (s : Signed) : String := String.ofList s.digits

/-- The number nearest to what is written. -/
def value (s : Signed) : Float := Float.ofBits (s.amount.literal.toBits s.negative)

end Signed
end Decimal

namespace Sentence

open Text (Numeral)

/-- A numeral in a field is read if it fits in 32 bits with a sign. -/
theorem intOf_text (n : Numeral 10) :
    intOf (some n.text) = if n.value < 2 ^ 31 then some (n.value : Int) else none := by
  have greatest : (Text.Integer.Range.signed 32).greatest = 2 ^ 31 - 1 := rfl
  have fits : (n.value : Int) ≤ 2 ^ 31 - 1 ↔ n.value < 2 ^ 31 := by omega
  rw [intOf, Option.bind_some, n.trim_text, Text.Integer.decimal?, Numeral.text,
    String.toList_ofList, n.toOption_read_digits (by decide), greatest]
  exact if_congr fits rfl rfl

/-- A hexadecimal numeral in a field is read if it fits in 32 bits. -/
theorem hexOf_text (n : Numeral 16) :
    hexOf (some n.text) = if n.value < 2 ^ 32 then some n.value else none := by
  have greatest : (Text.Integer.Range.unsigned 32).greatest = 2 ^ 32 - 1 := rfl
  have fits : (n.value : Int) ≤ 2 ^ 32 - 1 ↔ n.value < 2 ^ 32 := by omega
  rw [hexOf, Option.bind_some, n.trim_text, Numeral.text, String.toList_ofList,
    n.toOption_read_digits (by decide), greatest, if_congr fits rfl rfl]
  split <;> rfl

theorem intOf_numeral {n : Numeral 10} (fits : n.value < 2 ^ 31) :
    intOf (some n.text) = some (n.value : Int) := by
  rw [intOf_text, if_pos fits]

theorem hexOf_numeral {n : Numeral 16} (fits : n.value < 2 ^ 32) :
    hexOf (some n.text) = some n.value := by
  rw [hexOf_text, if_pos fits]

theorem doubleOf_of_clear {cs : List Char} (clear : ∀ c ∈ cs, Text.isBlank c = false) :
    doubleOf (some (String.ofList cs)) = Decimal.read? cs := by
  rw [doubleOf, Option.bind_some, Text.trim_ofList clear, String.toList_ofList]

theorem doubleOf_amount (a : Decimal.Amount) :
    doubleOf (some (String.ofList a.digits)) = Decimal.read? a.digits :=
  doubleOf_of_clear a.isBlank_digits

theorem doubleOf_neg_amount (a : Decimal.Amount) :
    doubleOf (some (String.ofList ('-' :: a.digits))) = Decimal.read? ('-' :: a.digits) :=
  doubleOf_of_clear (List.forall_mem_cons.2 ⟨by decide, a.isBlank_digits⟩)

/-- An amount in a field is read, whatever its length, with its sign. -/
theorem doubleOf_signed (s : Decimal.Signed) : doubleOf (some s.text) = some s.value := by
  obtain ⟨negative, a⟩ := s
  cases negative
  · exact (doubleOf_amount a).trans a.read?_digits
  · exact (doubleOf_neg_amount a).trans a.read?_neg_digits

end Sentence
end TrackerGateway
