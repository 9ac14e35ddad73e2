import TrackerGateway.Proofs.Sentence.Numbers

/-!
# Which texts are integers

A text is an integer if it is digits, with a sign in front or not (`Written`). Reading accepts
just these texts, of whatever length, as far as the integer is in the range (`read_eq_ok_iff`).
One of the texts of an integer is the one that it is printed as (`written_toString`). The others
have a plus sign, needless zeros in front, or a minus sign before zero
(`Written.eq_toString_iff`).
-/

namespace TrackerGateway.Text

namespace Integer

theorem holds_iff {range : Range} {k : Int} :
    range.holds k = true ↔ range.least ≤ k ∧ k ≤ range.greatest := by
  simp [Range.holds]

theorem holds_unsigned_iff {bits n : Nat} :
    (Range.unsigned bits).holds n = true ↔ n < 2 ^ bits := by
  have greatest : (Range.unsigned bits).greatest = ((2 ^ bits : Nat) : Int) - 1 := rfl
  have least : (Range.unsigned bits).least = 0 := rfl
  rw [holds_iff, greatest, least]
  omega

theorem holds_signed_natCast_iff {bits n : Nat} :
    (Range.signed bits).holds n = true ↔ n < 2 ^ (bits - 1) := by
  have greatest : (Range.signed bits).greatest = ((2 ^ (bits - 1) : Nat) : Int) - 1 := rfl
  have least : (Range.signed bits).least = -((2 ^ (bits - 1) : Nat) : Int) := rfl
  rw [holds_iff, greatest, least]
  omega

/-- What the digits after a sign, or without one, are read as. -/
theorem map_magnitude_eq_ok_iff {radix limit : Nat} {overflow : Fault} {digits : List Char}
    {k : Int} {sign : Int → Int} (nonempty : digits ≠ []) :
    (magnitude radix limit overflow 0 digits >>= fun n => pure (n : Int)).map sign = .ok k ↔
      ∃ n : Numeral radix, n.digits = digits ∧ sign n.value = k ∧ n.value ≤ limit := by
  constructor
  · intro read
    cases known : magnitude radix limit overflow 0 digits with
    | error fault =>
      rw [known] at read
      cases read
    | ok n =>
      rw [known] at read
      cases read
      obtain ⟨isDigit, rfl, small⟩ := (magnitude_eq_ok_iff (Nat.zero_le _)).1 known
      exact ⟨⟨digits, nonempty, isDigit⟩, rfl, rfl, small⟩
  · rintro ⟨n, rfl, rfl, small⟩
    rw [(magnitude_eq_ok_iff (Nat.zero_le _)).2 ⟨n.isDigit, rfl, small⟩]
    rfl

/-- A text and the integer that is written there. -/
inductive Written (radix : Nat) : List Char → Int → Prop where
  | plain (n : Numeral radix) : Written radix n.digits n.value
  | plus (n : Numeral radix) : Written radix ('+' :: n.digits) n.value
  | minus (n : Numeral radix) : Written radix ('-' :: n.digits) (-n.value)

theorem read_plus {range : Range} {radix : Nat} {digits : List Char} (nonempty : digits ≠ []) :
    read range radix ('+' :: digits) =
      (magnitude radix range.greatest.toNat .tooLarge 0 digits).map fun n => (n : Int) := by
  match digits, nonempty with
  | _ :: _, _ => rfl

theorem read_minus {range : Range} {radix : Nat} {digits : List Char} (nonempty : digits ≠ [])
    (negative : range.least < 0) :
    read range radix ('-' :: digits) =
      (magnitude radix (-range.least).toNat .tooSmall 0 digits).map fun n => -(n : Int) := by
  match digits, nonempty with
  | _ :: _, _ => exact if_pos negative

/-- What is read as an integer of a range that has negative and positive numbers. -/
theorem read_eq_ok_iff {range : Range} (negative : range.least < 0) (positive : 0 ≤ range.greatest)
    {radix : Nat} {text : List Char} {k : Int} :
    read range radix text = .ok k ↔ Written radix text k ∧ range.holds k = true := by
  rw [holds_iff]
  constructor
  · intro found
    unfold read at found
    split at found
    · cases found
    · cases found
    · cases found
    · rename_i digits alone
      have nonempty : digits ≠ [] := by
        rintro rfl
        exact alone rfl
      obtain ⟨n, rfl, rfl, small⟩ := (map_magnitude_eq_ok_iff nonempty).1 found
      exact ⟨.plus n, by omega⟩
    · rename_i digits alone
      have nonempty : digits ≠ [] := by
        rintro rfl
        exact alone rfl
      rw [if_pos negative] at found
      obtain ⟨n, rfl, rfl, small⟩ := (map_magnitude_eq_ok_iff nonempty).1 found
      exact ⟨.minus n, by omega⟩
    · rename_i nonempty _ _ _ _
      obtain ⟨n, rfl, rfl, small⟩ := (map_magnitude_eq_ok_iff nonempty).1 found
      exact ⟨.plain n, by omega⟩
  · rintro ⟨written, least, greatest⟩
    cases written with
    | plain n =>
      rw [n.read_eq_magnitude]
      exact (map_magnitude_eq_ok_iff n.digits_ne_nil).2 ⟨n, rfl, rfl, by omega⟩
    | plus n =>
      rw [read_plus n.digits_ne_nil]
      exact (map_magnitude_eq_ok_iff n.digits_ne_nil).2 ⟨n, rfl, rfl, by omega⟩
    | minus n =>
      rw [read_minus n.digits_ne_nil negative]
      exact (map_magnitude_eq_ok_iff n.digits_ne_nil).2 ⟨n, rfl, rfl, by omega⟩

theorem decimal?_eq_some_iff {range : Range} (negative : range.least < 0)
    (positive : 0 ≤ range.greatest) {text : String} {k : Int} :
    decimal? range text = some k ↔ Written 10 text.toList k ∧ range.holds k = true := by
  rw [← read_eq_ok_iff negative positive, decimal?]
  cases read range 10 text.toList with
  | error fault => simp [Except.toOption]
  | ok n => simp [Except.toOption]

/-! ### Digits -/

theorem digit?_eq_some_iff {c : Char} {d : Nat} :
    digit? 10 c = some d ↔ d < 10 ∧ c = Nat.digitChar d := by
  have digits : ∀ d < 10, digit? 10 (Nat.digitChar d) = some d := by decide
  constructor
  · intro known
    have range := Decimal.isAsciiDigit_iff.1
      (Decimal.isAsciiDigit_of_isDigit (Option.isSome_iff_exists.2 ⟨d, known⟩))
    have value : Hex.value? c = some (c.toNat - 48) := if_pos range
    obtain ⟨same, small⟩ := Option.filter_eq_some_iff.1 known
    rw [value, Option.some.injEq] at same
    have small : d < 10 := by simpa using small
    have back : c.toNat = (Nat.digitChar d).toNat := by
      rw [Nat.toNat_digitChar_of_lt_ten small]
      omega
    exact ⟨small, Char.toNat_inj.1 back⟩
  · rintro ⟨small, rfl⟩
    exact digits d small

theorem digit?_digitChar {radix d : Nat} (small : radix ≤ 16) (below : d < radix) :
    digit? radix (Nat.digitChar d) = some d := by
  have value : ∀ d < 16, Hex.value? (Nat.digitChar d) = some d := by decide
  rw [digit?, value d (by omega)]
  simp [below]

theorem valueAfter_singleton {radix seen d : Nat} (small : radix ≤ 16) (below : d < radix) :
    valueAfter radix seen [Nat.digitChar d] = radix * seen + d := by
  rw [valueAfter, List.foldl_cons, digit?_digitChar small below]
  rfl

/-- What a number is printed as in a radix are digits, and they are read as the number. -/
theorem valueAfter_toDigits_of_le {radix : Nat} (above : 1 < radix) (small : radix ≤ 16) (n : Nat) :
    (∀ c ∈ Nat.toDigits radix n, (digit? radix c).isSome = true) ∧
        valueAfter radix 0 (Nat.toDigits radix n) = n := by
  induction n using Nat.base_induction radix above with
  | single d below =>
    rw [Nat.toDigits_of_lt_base below, valueAfter_singleton small below]
    refine ⟨fun c member => ?_, by omega⟩
    rw [List.mem_singleton.1 member, digit?_digitChar small below]
    rfl
  | digit n d below positive ih =>
    rw [← Nat.toDigits_append_toDigits above positive below, Nat.toDigits_of_lt_base below]
    constructor
    · intro c member
      rcases List.mem_append.1 member with front | last
      · exact ih.1 c front
      · rw [List.mem_singleton.1 last, digit?_digitChar small below]
        rfl
    · rw [valueAfter, List.foldl_append, ← valueAfter, ← valueAfter, ih.2,
        valueAfter_singleton small below]

/-- What a number is printed as are digits, and they are read as the number. -/
theorem valueAfter_toDigits (n : Nat) :
    (∀ c ∈ Nat.toDigits 10 n, (digit? 10 c).isSome = true) ∧
        valueAfter 10 0 (Nat.toDigits 10 n) = n :=
  valueAfter_toDigits_of_le (by decide) (by decide) n

/-- Digits behind a number that is not zero print a greater one. -/
theorem toDigits_valueAfter {seen : Nat} (positive : 0 < seen) {digits : List Char}
    (isDigit : ∀ c ∈ digits, (digit? 10 c).isSome = true) :
    Nat.toDigits 10 (valueAfter 10 seen digits) = Nat.toDigits 10 seen ++ digits := by
  induction digits generalizing seen with
  | nil => rw [List.append_nil]; rfl
  | cons c rest ih =>
    obtain ⟨d, known⟩ := Option.isSome_iff_exists.1 (isDigit c List.mem_cons_self)
    obtain ⟨small, rfl⟩ := digit?_eq_some_iff.1 known
    have step : valueAfter 10 seen (Nat.digitChar d :: rest) =
        valueAfter 10 (10 * seen + d) rest := by
      rw [valueAfter, List.foldl_cons, known]
      rfl
    rw [step, ih (by omega) fun c member => isDigit c (List.mem_cons_of_mem _ member),
      ← Nat.toDigits_append_toDigits (by decide) positive small, Nat.toDigits_of_lt_base small,
      List.append_assoc, List.singleton_append]

/-- A number above zero is printed without a zero in front. -/
theorem toDigits_ne_zero_cons {n : Nat} (positive : 0 < n) (rest : List Char) :
    Nat.toDigits 10 n ≠ '0' :: rest := by
  induction n using Nat.base_induction 10 (by decide) generalizing rest with
  | single d small =>
    rw [Nat.toDigits_of_lt_base small]
    intro same
    have zero : Nat.digitChar d = Nat.digitChar 0 := (List.cons.inj same).1
    have known := digit?_eq_some_iff.2 ⟨small, zero.symm⟩
    rw [digit?_eq_some_iff.2 ⟨by decide, rfl⟩, Option.some.injEq] at known
    omega
  | digit n d small above ih =>
    rw [← Nat.toDigits_append_toDigits (by decide) above small]
    obtain ⟨c, front, shape⟩ := List.exists_cons_of_ne_nil (Nat.toDigits_ne_nil (n := n) (b := 10))
    rw [shape, List.cons_append]
    intro same
    exact ih above front (by rw [shape, (List.cons.inj same).1])

end Integer

namespace Numeral

/-- A numeral has zeros in front that its number does not need. -/
def SpareZeros (n : Numeral 10) : Prop := ∃ c rest, n.digits = '0' :: c :: rest

/-- A numeral is what its number is printed as exactly if it has no needless zeros. -/
theorem digits_eq_toDigits_iff (n : Numeral 10) :
    n.digits = Nat.toDigits 10 n.value ↔ ¬ n.SpareZeros := by
  constructor
  · rintro printed ⟨c, rest, shape⟩
    rw [shape] at printed
    rcases Nat.eq_zero_or_pos n.value with zero | positive
    · rw [zero, Nat.toDigits_zero] at printed
      cases printed
    · exact Integer.toDigits_ne_zero_cons positive (c :: rest) printed.symm
  · intro bare
    obtain ⟨c, rest, shape⟩ := List.exists_cons_of_ne_nil n.digits_ne_nil
    have isDigit := n.isDigit
    rw [shape] at isDigit
    obtain ⟨first, others⟩ := List.forall_mem_cons.1 isDigit
    obtain ⟨d, known⟩ := Option.isSome_iff_exists.1 first
    obtain ⟨small, rfl⟩ := Integer.digit?_eq_some_iff.1 known
    have value : n.value = Integer.valueAfter 10 d rest := by
      rw [Numeral.value, shape, Integer.valueAfter, List.foldl_cons, known]
      simp only [Nat.mul_zero, Nat.zero_add, Option.getD_some]
      rfl
    rw [value, shape]
    rcases Nat.eq_zero_or_pos d with rfl | positive
    · cases rest with
      | nil => rfl
      | cons c rest => exact absurd ⟨c, rest, shape⟩ bare
    · rw [Integer.toDigits_valueAfter positive others, Nat.toDigits_of_lt_base small]
      rfl

theorem exists_zero_cons {n : Numeral 10} (zero : n.value = 0) :
    ∃ rest, n.digits = '0' :: rest := by
  by_cases spare : n.SpareZeros
  · obtain ⟨c, rest, shape⟩ := spare
    exact ⟨c :: rest, shape⟩
  · refine ⟨[], ?_⟩
    rw [n.digits_eq_toDigits_iff.2 spare, zero, Nat.toDigits_zero]

theorem spareZeros_of_zero_cons {n : Numeral 10} {rest : List Char} (shape : n.digits = '0' :: rest)
    (positive : 0 < n.value) : n.SpareZeros := by
  by_contra bare
  exact Integer.toDigits_ne_zero_cons positive rest
    ((n.digits_eq_toDigits_iff.2 bare).symm.trans shape)

/-- The numeral that a number is printed as. -/
def ofNat (n : Nat) : Numeral 10 :=
  ⟨Nat.toDigits 10 n, Nat.toDigits_ne_nil, (Integer.valueAfter_toDigits n).1⟩

theorem value_ofNat (n : Nat) : (ofNat n).value = n := (Integer.valueAfter_toDigits n).2

end Numeral

namespace Integer

/-! ### The text that an integer is printed as -/

theorem toList_toString (k : Int) :
    (toString k).toList = if k < 0 then '-' :: Nat.toDigits 10 k.natAbs
      else Nat.toDigits 10 k.natAbs := by
  rw [Int.toString_eq_repr, Int.repr_eq_if]
  rcases Int.lt_or_le k 0 with negative | positive
  · rw [if_neg (by omega), if_pos negative, String.toList_append, Nat.toList_repr,
      show (-k).toNat = k.natAbs by omega]
    rfl
  · rw [if_pos positive, if_neg (by omega), Nat.toList_repr, show k.toNat = k.natAbs by omega]

/-- What an integer is printed as is a text of it. -/
theorem written_toString (k : Int) : Written 10 (toString k).toList k := by
  rw [toList_toString]
  split
  · rename_i negative
    have minus := Written.minus (Numeral.ofNat k.natAbs)
    rwa [Numeral.value_ofNat, show -(k.natAbs : Int) = k by omega] at minus
  · rename_i positive
    have plain := Written.plain (Numeral.ofNat k.natAbs)
    rwa [Numeral.value_ofNat, show (k.natAbs : Int) = k by omega] at plain

/-- An integer of the range is read back from what it is printed as. -/
theorem decimal?_toString {range : Range} (negative : range.least < 0)
    (positive : 0 ≤ range.greatest) {k : Int} (inside : range.holds k = true) :
    decimal? range (toString k) = some k :=
  (decimal?_eq_some_iff negative positive).2 ⟨written_toString k, inside⟩

/-- A number is read back from what it is printed as, also in a range without negative numbers. -/
theorem decimal?_toString_nat {range : Range} {n : Nat} (inside : (n : Int) ≤ range.greatest) :
    decimal? range (toString n) = some (n : Int) := by
  rw [decimal?, Nat.toString_eq_repr, Nat.toList_repr]
  have positive : 0 ≤ range.greatest := by omega
  have digits := (Numeral.ofNat n).toOption_read_digits positive
  rwa [Numeral.value_ofNat, if_pos inside] at digits

theorem eq_minus_or_isDigit {k : Int} {c : Char} (member : c ∈ (toString k).toList) :
    c = '-' ∨ (digit? 10 c).isSome = true := by
  rw [toList_toString] at member
  split at member
  · exact (List.mem_cons.1 member).imp id ((valueAfter_toDigits k.natAbs).1 c)
  · exact .inr ((valueAfter_toDigits k.natAbs).1 c member)

theorem trim_toString (k : Int) : trim (toString k) = toString k := by
  rw [← String.ofList_toList (s := toString k)]
  refine trim_ofList fun c member => ?_
  rcases eq_minus_or_isDigit member with rfl | isDigit
  · rfl
  · exact Numeral.isBlank_of_isDigit isDigit

theorem trim_toString_nat (n : Nat) : trim (toString n) = toString n := trim_toString n

/-- A text that no integer is printed as: one with a plus sign or needless zeros, or minus zero. -/
inductive Loose : List Char → Prop where
  | plus (digits : List Char) : Loose ('+' :: digits)
  | zeros (c : Char) (digits : List Char) : Loose ('0' :: c :: digits)
  | minusZeros (digits : List Char) : Loose ('-' :: '0' :: digits)

theorem loose_digits_iff {n : Numeral 10} : Loose n.digits ↔ n.SpareZeros := by
  constructor
  · intro loose
    generalize shape : n.digits = text at loose
    have first : (digit? 10 (text.headD '0')).isSome = true := by
      obtain ⟨c, rest, cons⟩ := List.exists_cons_of_ne_nil n.digits_ne_nil
      rw [← shape, cons]
      exact n.isDigit c (by rw [cons]; exact List.mem_cons_self)
    cases loose with
    | plus digits => exact absurd first (by decide : ¬ (digit? 10 '+').isSome = true)
    | zeros c digits => exact ⟨c, digits, shape⟩
    | minusZeros digits => exact absurd first (by decide : ¬ (digit? 10 '-').isSome = true)
  · rintro ⟨c, rest, shape⟩
    rw [shape]
    exact .zeros c rest

theorem loose_minus_iff {n : Numeral 10} :
    Loose ('-' :: n.digits) ↔ n.value = 0 ∨ n.SpareZeros := by
  constructor
  · intro loose
    generalize shape : n.digits = text at loose
    cases loose with
    | minusZeros digits =>
      rcases Nat.eq_zero_or_pos n.value with zero | positive
      · exact .inl zero
      · exact .inr (Numeral.spareZeros_of_zero_cons shape positive)
  · rintro (zero | ⟨c, rest, shape⟩)
    · obtain ⟨rest, shape⟩ := Numeral.exists_zero_cons zero
      rw [shape]
      exact .minusZeros rest
    · rw [shape]
      exact .minusZeros (c :: rest)

/-- A text of an integer is what the integer is printed as exactly if it is not loose. -/
theorem Written.eq_toString_iff {text : List Char} {k : Int} (written : Written 10 text k) :
    text = (toString k).toList ↔ ¬ Loose text := by
  have signless (sign : Char) (digits : List Char) (m : Nat)
      (no_digit : (digit? 10 sign).isSome = false) :
      sign :: digits ≠ Nat.toDigits 10 m := by
    intro same
    have first := (valueAfter_toDigits m).1 sign (by rw [← same]; exact List.mem_cons_self)
    rw [no_digit] at first
    cases first
  rw [toList_toString]
  cases written with
  | plain n =>
    rw [if_neg (by omega), Int.natAbs_natCast, loose_digits_iff]
    exact n.digits_eq_toDigits_iff
  | plus n =>
    rw [if_neg (by omega)]
    exact iff_of_false (signless '+' _ _ rfl) fun bare => bare (.plus n.digits)
  | minus n =>
    rw [loose_minus_iff, Int.natAbs_neg, Int.natAbs_natCast]
    rcases Nat.eq_zero_or_pos n.value with zero | positive
    · rw [if_neg (by omega)]
      exact iff_of_false (signless '-' _ _ rfl) fun bare => bare (.inl zero)
    · rw [if_pos (by omega), List.cons.injEq, n.digits_eq_toDigits_iff]
      constructor
      · rintro ⟨-, bare⟩ (zero | spare)
        · omega
        · exact bare spare
      · intro bare
        exact ⟨rfl, fun spare => bare (.inr spare)⟩

end Integer

end TrackerGateway.Text
