import Mathlib.Data.List.Basic
import Mathlib.Data.List.Induction
import TrackerGateway.Bytes.Crc

/-!
# What a cyclic redundancy check finds out

If the polynomial has its lowest term, no shift forgets anything: registers that differ stay
different whatever octets they are fed (`feedAll_inj`). Octets enter at the top of the register,
so as many of them as fit into it stay apart there. Byte strings that differ in no more octets
than that, one behind the other, have different check values (`checksum_ne_of_burst`).
-/

namespace TrackerGateway.Crc

variable {width : Nat} {crc : Crc width}

/-- Whether the polynomial has its lowest term. -/
def Odd (crc : Crc width) : Prop := crc.poly.getLsbD 0 = true

/-! ### Registers that differ -/

/-- A register is empty if it is empty after a shift. -/
theorem eq_zero_of_shift (odd : crc.Odd) {register : BitVec width}
    (empty : crc.shift register = BitVec.ofNat width 0) : register = BitVec.ofNat width 0 := by
  have positive : 0 < width := by
    refine Nat.pos_of_ne_zero fun none => ?_
    have beyond := BitVec.getLsbD_of_ge crc.poly 0 (Nat.le_of_eq none)
    rw [odd] at beyond
    cases beyond
  by_cases top : register.msb = true
  · -- The lowest place is empty after moving up, and the polynomial fills it.
    rw [shift, if_pos top] at empty
    have lowest := congrArg (·.getLsbD 0) empty
    rw [BitVec.getLsbD_xor, BitVec.getLsbD_shiftLeft, odd] at lowest
    simp at lowest
  · rw [shift, if_neg top] at empty
    refine BitVec.eq_of_getLsbD_eq fun i inside => ?_
    rw [BitVec.getLsbD_zero]
    by_cases last : i + 1 < width
    · have moved := congrArg (·.getLsbD (i + 1)) empty
      rw [BitVec.getLsbD_shiftLeft, BitVec.getLsbD_zero] at moved
      simpa [last] using moved
    · rw [BitVec.msb_eq_getLsbD_last, show width - 1 = i by omega] at top
      simpa using top

theorem eq_zero_of_shifts (odd : crc.Odd) {count : Nat} {register : BitVec width}
    (empty : crc.shifts count register = BitVec.ofNat width 0) :
    register = BitVec.ofNat width 0 := by
  induction count with
  | zero => exact empty
  | succ count ih => exact ih (eq_zero_of_shift odd empty)

theorem shifts_inj (odd : crc.Odd) {count : Nat} {a b : BitVec width}
    (same : crc.shifts count a = crc.shifts count b) : a = b := by
  rw [← BitVec.xor_eq_zero_iff, ← shifts_xor] at same
  exact BitVec.xor_eq_zero_iff.1 (eq_zero_of_shifts odd same)

theorem feed_inj (odd : crc.Odd) {a b : BitVec width} {octet : UInt8}
    (same : crc.feed a octet = crc.feed b octet) : a = b := by
  have entered := shifts_inj odd same
  rwa [BitVec.xor_left_inj] at entered

/-- Registers that differ stay different whatever they are fed. -/
theorem feedAll_inj (odd : crc.Odd) {octets : Bytes} {a b : BitVec width}
    (same : crc.feedAll a octets = crc.feedAll b octets) : a = b := by
  induction octets generalizing a b with
  | nil => exact same
  | cons octet rest ih => exact feed_inj odd (ih same)

theorem finish_inj {a b : BitVec width} (same : crc.finish a = crc.finish b) : a = b := by
  rw [finish, finish, BitVec.xor_left_inj] at same
  split at same
  · rw [← BitVec.reverse_reverse_eq (x := a), same, BitVec.reverse_reverse_eq]
  · exact same

/-! ### Octets that differ -/

/-- Whether a register is empty but for so many places at its top. -/
def OnlyTop (places : Nat) (register : BitVec width) : Prop :=
  ∀ i, i + places < width → register.getLsbD i = false

theorem OnlyTop.xor {places : Nat} {a b : BitVec width} (ha : OnlyTop places a)
    (hb : OnlyTop places b) : OnlyTop places (a ^^^ b) := by
  intro i low
  rw [BitVec.getLsbD_xor, ha i low, hb i low]
  rfl

theorem OnlyTop.mono {few many : Nat} {register : BitVec width} (top : OnlyTop few register)
    (le : few ≤ many) : OnlyTop many register :=
  fun i low => top i (by omega)

theorem OnlyTop.down {places : Nat} {register : BitVec width} (top : OnlyTop places register) :
    OnlyTop (places + 8) (register >>> 8) := by
  intro i low
  rw [BitVec.getLsbD_ushiftRight]
  exact top (8 + i) (by omega)

theorem onlyTop_entering (octet : UInt8) : OnlyTop 8 (crc.entering octet) := by
  intro i low
  rw [entering, BitVec.getLsbD_shiftLeft, decide_eq_true (show i < width - 8 by omega)]
  simp

/-- The octet that enters is all that is in the top eight places. -/
theorem getLsbD_entering {octet : UInt8} (wide : 8 ≤ width) {i : Nat} (inside : i < 8) :
    (crc.entering octet).getLsbD (width - 8 + i) =
      if crc.reflected then octet.toBitVec.getMsbD i else octet.toBitVec.getLsbD i := by
  rw [entering, BitVec.getLsbD_shiftLeft, decide_eq_true (show width - 8 + i < width by omega),
    decide_eq_false (show ¬ width - 8 + i < width - 8 by omega), BitVec.getLsbD_setWidth,
    Nat.add_sub_cancel_left, decide_eq_true (show i < width by omega)]
  cases crc.reflected
  · simp
  · simp [BitVec.getLsbD_reverse]

theorem entering_inj (wide : 8 ≤ width) {a b : UInt8} (same : crc.entering a = crc.entering b) :
    a = b := by
  have place (i : Nat) (inside : i < 8) :
      (if crc.reflected then a.toBitVec.getMsbD i else a.toBitVec.getLsbD i) =
        if crc.reflected then b.toBitVec.getMsbD i else b.toBitVec.getLsbD i := by
    rw [← getLsbD_entering wide inside, ← getLsbD_entering wide inside, same]
  refine UInt8.toBitVec_inj.1 ?_
  cases reflected : crc.reflected
  · simp only [reflected, Bool.false_eq_true, if_false] at place
    exact BitVec.eq_of_getLsbD_eq place
  · simp only [reflected, if_true] at place
    exact BitVec.eq_of_getMsbD_eq place

/-- Eight shifts move a register that is empty at its top up by eight places. -/
theorem shifts_down (crc : Crc width) (wide : 8 ≤ width) {places : Nat} {register : BitVec width}
    (top : OnlyTop places register) (room : places + 8 ≤ width) :
    crc.shifts 8 (register >>> 8) = register := by
  rw [shifts_of_low crc wide fun i high => ?_]
  · refine BitVec.eq_of_getLsbD_eq fun i inside => ?_
    rw [BitVec.getLsbD_shiftLeft, BitVec.getLsbD_ushiftRight, decide_eq_true inside]
    by_cases low : i < 8
    · rw [top i (by omega), decide_eq_true low]
      rfl
    · rw [decide_eq_false low, show 8 + (i - 8) = i by omega]
      rfl
  · rw [BitVec.getLsbD_ushiftRight]
    exact BitVec.getLsbD_of_ge _ _ (by omega)

theorem feedAll_concat (register : BitVec width) (front : Bytes) (last : UInt8) :
    crc.feedAll register (front ++ [last]) = crc.feed (crc.feedAll register front) last := by
  rw [feedAll_append]
  rfl

/-- What was combined with two registers is all that their difference has more than before. -/
theorem xor_eq_xor_entered (a b e e' : BitVec width) :
    a ^^^ b = a ^^^ e ^^^ (b ^^^ e') ^^^ (e ^^^ e') := by
  refine BitVec.eq_of_getLsbD_eq fun i _ => ?_
  simp only [BitVec.getLsbD_xor]
  cases a.getLsbD i <;> cases b.getLsbD i <;> cases e.getLsbD i <;> cases e'.getLsbD i <;> rfl

/-- Two registers that differ only where octets that came later stand, apart from which they were
fed octets of the same number from one register, were fed the same octets. -/
theorem eq_of_feedAll_xor (odd : crc.Odd) {register : BitVec width} {first second : Bytes}
    (length : first.length = second.length) (later : Nat)
    (room : 8 * (first.length + later) ≤ width)
    (top : OnlyTop (8 * later) (crc.feedAll register first ^^^ crc.feedAll register second)) :
    first = second := by
  induction first using List.reverseRecOn generalizing second later with
  | nil => exact (List.length_eq_zero_iff.1 length.symm).symm
  | append_singleton front a ih =>
    obtain rfl | ⟨front', b, rfl⟩ := second.eq_nil_or_concat'
    · simp at length
    simp only [List.length_append, List.length_singleton] at length room
    have wide : 8 ≤ width := by omega
    -- What the last octets leave different is what was different before, and the octets themselves.
    have before : crc.feedAll register front ^^^ crc.feedAll register front' =
        (crc.feedAll register (front ++ [a]) ^^^ crc.feedAll register (front' ++ [b])) >>> 8 ^^^
          (crc.entering a ^^^ crc.entering b) := by
      have moved := shifts_down crc wide top (by omega)
      rw [feedAll_concat, feedAll_concat, feed, feed, ← shifts_xor] at moved ⊢
      rw [shifts_inj odd moved, ← xor_eq_xor_entered]
    have entered : OnlyTop 8 (crc.entering a ^^^ crc.entering b) :=
      (onlyTop_entering a).xor (onlyTop_entering b)
    have same : front = front' := by
      refine ih (by omega) (later + 1) (by omega) ?_
      rw [before]
      exact top.down.xor (entered.mono (by omega))
    subst same
    -- The octets are now in the top eight places, where nothing else is.
    have octet : crc.entering a = crc.entering b := by
      rw [BitVec.xor_self] at before
      refine BitVec.eq_of_getLsbD_eq fun i inside => ?_
      by_cases low : i + 8 < width
      · rw [onlyTop_entering a i low, onlyTop_entering b i low]
      · have place := congrArg (·.getLsbD i) before
        rw [BitVec.getLsbD_xor, BitVec.getLsbD_ushiftRight,
          BitVec.getLsbD_of_ge _ (8 + i) (by omega), BitVec.getLsbD_zero,
          BitVec.getLsbD_xor] at place
        simpa using place.symm
    rw [entering_inj wide octet]

/-- Byte strings have different check values if they differ only in octets, one behind the other,
that fit into the register together. -/
theorem checksum_ne_of_burst (odd : crc.Odd) {front burst burst' back : Bytes}
    (length : burst.length = burst'.length) (short : 8 * burst.length ≤ width)
    (differ : burst ≠ burst') :
    crc.checksum (front ++ burst ++ back) ≠ crc.checksum (front ++ burst' ++ back) := by
  intro same
  have registers := finish_inj same
  simp only [feedAll_append] at registers
  have top : OnlyTop (8 * 0) (crc.feedAll (crc.feedAll crc.init front) burst ^^^
      crc.feedAll (crc.feedAll crc.init front) burst') := by
    rw [feedAll_inj odd registers, BitVec.xor_self]
    exact fun i _ => BitVec.getLsbD_zero
  exact differ (eq_of_feedAll_xor odd length 0 short top)

/-! ### One octet and two neighbours -/

theorem checksum_set_ne (odd : crc.Odd) (wide : 8 ≤ width) {octets : Bytes}
    {i : Nat} (inside : i < octets.length) {b : UInt8} (differ : b ≠ octets[i]) :
    crc.checksum (octets.set i b) ≠ crc.checksum octets := by
  have before : octets = octets.take i ++ [octets[i]] ++ octets.drop (i + 1) := by simp
  have after : octets.set i b = octets.take i ++ [b] ++ octets.drop (i + 1) := by
    rw [List.set_eq_take_append_cons_drop, if_pos inside]
    simp
  rw [after]
  conv => rhs; rw [before]
  exact checksum_ne_of_burst odd rfl wide (by simpa using differ)

theorem set_set_neighbours {front back : Bytes} {i : Nat} (length : front.length = i)
    {x y a b : UInt8} :
    ((front ++ [x, y] ++ back).set i a).set (i + 1) b = front ++ [a, b] ++ back := by
  subst length
  simp

theorem checksum_set_set_ne (odd : crc.Odd) (wide : 16 ≤ width)
    {octets : Bytes} {i : Nat} (inside : i + 1 < octets.length) {a b : UInt8}
    (differ : a ≠ octets[i] ∨ b ≠ octets[i + 1]) :
    crc.checksum ((octets.set i a).set (i + 1) b) ≠ crc.checksum octets := by
  have before : octets = octets.take i ++ [octets[i], octets[i + 1]] ++ octets.drop (i + 2) := by
    simp
  have front : (octets.take i).length = i := by
    rw [List.length_take]
    omega
  have after : (octets.set i a).set (i + 1) b = octets.take i ++ [a, b] ++ octets.drop (i + 2) := by
    conv => lhs; rw [before]
    exact set_set_neighbours front
  rw [after]
  conv => rhs; rw [before]
  refine checksum_ne_of_burst odd rfl wide fun same => ?_
  simp only [List.cons.injEq, and_true] at same
  exact differ.elim (· same.1) (· same.2)

end TrackerGateway.Crc
