import TrackerGateway.Bytes.Basic

/-!
# Cyclic redundancy checks, described by their catalogue parameters

A `Crc w` is the `w` bit register's polynomial and initial value, whether octets and result are
taken bit reversed, and the value combined with the result. `checksum` feeds octet after octet, each
in eight shifts of the register. `feedAll_append` splits a run at any octet.

`quickChecksum` looks the eight shifts up in a table instead, for long byte strings. It is the
same value: shifting is linear over `^^^`, so what falls out of the top octet can be worked out
beforehand.
-/

namespace TrackerGateway

/-- The parameters of a `width` bit check, `8 ≤ width`. -/
structure Crc (width : Nat) where
  /-- The generator polynomial without its leading term. -/
  poly : BitVec width
  /-- The register before the first octet. -/
  init : BitVec width
  /-- Whether octets enter and the result leaves least significant bit first. -/
  reflected : Bool
  /-- Combined with the register at the end. -/
  final : BitVec width

namespace Crc

variable {width : Nat}

/-- Moves the register up one place, and subtracts the polynomial if a bit fell out. -/
def shift (crc : Crc width) (register : BitVec width) : BitVec width :=
  if register.msb then (register <<< 1) ^^^ crc.poly else register <<< 1

/-- The octet as it enters the top of the register. -/
def entering (crc : Crc width) (octet : UInt8) : BitVec width :=
  let bits := if crc.reflected then octet.toBitVec.reverse else octet.toBitVec
  bits.setWidth width <<< (width - 8)

/-- Moves the register up by places. -/
def shifts (crc : Crc width) : Nat → BitVec width → BitVec width
  | 0, register => register
  | count + 1, register => crc.shift (crc.shifts count register)

/-- The register after one more octet. -/
def feed (crc : Crc width) (register : BitVec width) (octet : UInt8) : BitVec width :=
  crc.shifts 8 (register ^^^ crc.entering octet)

/-- The register after all octets, from `register`. -/
def feedAll (crc : Crc width) (register : BitVec width) (octets : Bytes) : BitVec width :=
  octets.foldl crc.feed register

/-- The check value that a register gives at the end. -/
def finish (crc : Crc width) (register : BitVec width) : BitVec width :=
  (if crc.reflected then register.reverse else register) ^^^ crc.final

/-- The check value of a byte string. -/
def checksum (crc : Crc width) (octets : Bytes) : BitVec width :=
  crc.finish (crc.feedAll crc.init octets)

theorem feedAll_append (crc : Crc width) (register : BitVec width) (first second : Bytes) :
    crc.feedAll register (first ++ second) = crc.feedAll (crc.feedAll register first) second := by
  simp [feedAll]

/-! ### By table -/

/-- What each octet at the top of an otherwise empty register becomes in eight shifts. -/
def table (crc : Crc width) : Array (BitVec width) :=
  Array.ofFn fun top : Fin 256 => crc.shifts 8 (BitVec.ofNat width top <<< (width - 8))

/-- Eight shifts, with the table at hand. -/
def lookUp (table : Array (BitVec width)) (register : BitVec width) : BitVec width :=
  table.getD (register >>> (width - 8)).toNat 0 ^^^ (register <<< 8)

/-- The check value of a byte string, found with a table. -/
def quickChecksum (crc : Crc width) (octets : Bytes) : BitVec width :=
  let table := crc.table
  crc.finish (octets.foldl (fun r octet => lookUp table (r ^^^ crc.entering octet)) crc.init)

theorem shift_xor (crc : Crc width) (a b : BitVec width) :
    crc.shift (a ^^^ b) = crc.shift a ^^^ crc.shift b := by
  simp only [shift, BitVec.msb_xor, BitVec.shiftLeft_xor_distrib]
  cases a.msb <;> cases b.msb <;>
    simp only [bne_self_eq_false, Bool.false_bne, if_true, if_false, Bool.false_eq_true,
      Bool.bne_false]
  · ac_rfl
  · ac_rfl
  · rw [BitVec.xor_assoc (a <<< 1), BitVec.xor_comm (b <<< 1), ← BitVec.xor_assoc crc.poly,
      BitVec.xor_self, BitVec.zero_xor]

theorem shifts_xor (crc : Crc width) (count : Nat) (a b : BitVec width) :
    crc.shifts count (a ^^^ b) = crc.shifts count a ^^^ crc.shifts count b := by
  induction count with
  | zero => rfl
  | succ count ih => simp only [shifts, ih, shift_xor]

/-- Nothing falls out of a register whose top places are empty. -/
theorem shifts_of_low (crc : Crc width) {count : Nat} {register : BitVec width}
    (hc : count ≤ width) (low : ∀ i, width - count ≤ i → register.getLsbD i = false) :
    crc.shifts count register = register <<< count := by
  induction count with
  | zero => simp [shifts]
  | succ count ih =>
    rw [shifts, ih (by omega) fun i hi => low i (by omega)]
    have hmsb : (register <<< count).msb = false := by
      rw [BitVec.msb_eq_getLsbD_last, BitVec.getLsbD_shiftLeft, low _ (by omega)]
      simp
    simp only [shift, hmsb, Bool.false_eq_true, if_false, BitVec.shiftLeft_add]

theorem lookUp_table (crc : Crc width) (hw : 8 ≤ width) (register : BitVec width) :
    lookUp crc.table register = crc.shifts 8 register := by
  have hindex : (register >>> (width - 8)).toNat < 256 := by
    rw [BitVec.toNat_ushiftRight, Nat.shiftRight_eq_div_pow]
    apply Nat.div_lt_of_lt_mul
    have : 2 ^ (width - 8) * 256 = 2 ^ width := by
      rw [show (256 : Nat) = 2 ^ 8 from rfl, ← Nat.pow_add, Nat.sub_add_cancel hw]
    rw [this]
    exact register.isLt
  have hentry : crc.table.getD (register >>> (width - 8)).toNat 0 =
      crc.shifts 8 (register >>> (width - 8) <<< (width - 8)) := by
    rw [table, Array.getD, dif_pos (by simpa using hindex)]
    simp only [Array.getInternal_eq_getElem, Array.getElem_ofFn, BitVec.ofNat_toNat,
      BitVec.setWidth_eq]
  have hlow : crc.shifts 8 (register ^^^ register >>> (width - 8) <<< (width - 8)) =
      register <<< 8 := by
    rw [shifts_of_low crc hw]
    · ext i hi
      simp only [BitVec.getElem_shiftLeft]
      by_cases h8 : i < 8
      · simp [h8]
      · have : i - 8 < width - 8 := by omega
        simp [h8, this]
    · intro i hi
      by_cases hiw : i < width
      · have h1 : ¬ i < width - 8 := by omega
        have h2 : width - 8 + (i - (width - 8)) = i := by omega
        simp [hiw, h1, h2]
      · exact BitVec.getLsbD_of_ge _ _ (by omega)
  have hsplit (a b : BitVec width) : a ^^^ (b ^^^ a) = b := by
    rw [BitVec.xor_comm b, ← BitVec.xor_assoc, BitVec.xor_self, BitVec.zero_xor]
  rw [lookUp, hentry, ← hlow, ← shifts_xor, hsplit]

theorem quickChecksum_eq (crc : Crc width) (hw : 8 ≤ width) (octets : Bytes) :
    crc.quickChecksum octets = crc.checksum octets := by
  have h : (fun r octet => lookUp crc.table (r ^^^ crc.entering octet)) = crc.feed := by
    funext r octet
    rw [lookUp_table crc hw, feed]
  simp only [quickChecksum, checksum, feedAll, h]

/-! ### Checks in use -/

/-- The check of a transport header. -/
def egtsHeader : Crc 8 := ⟨0x31, 0xFF, false, 0x00⟩

/-- The check of a transport frame, also known as CCITT-FALSE. -/
def ccittFalse : Crc 16 := ⟨0x1021, 0xFFFF, false, 0x0000⟩

-- The catalogue names a check by its value for the digits from 1 to 9.
example : egtsHeader.checksum [49, 50, 51, 52, 53, 54, 55, 56, 57] = 0xF7 := by decide +kernel

example : ccittFalse.checksum [49, 50, 51, 52, 53, 54, 55, 56, 57] = 0x29B1 := by decide +kernel

/-- The check of X.25 links. -/
def x25 : Crc 16 := ⟨0x1021, 0xFFFF, true, 0xFFFF⟩

/-- The check of Modbus links. -/
def modbus : Crc 16 := ⟨0x8005, 0xFFFF, true, 0x0000⟩

/-- The check of XMODEM transfers. -/
def xmodem : Crc 16 := ⟨0x1021, 0x0000, false, 0x0000⟩

end Crc
end TrackerGateway
