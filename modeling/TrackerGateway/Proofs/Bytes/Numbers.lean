import Mathlib.Algebra.Order.Ring.Nat
import TrackerGateway.Bytes.Reader

/-!
# Numbers in octets

Numbers that are written least significant octet first are read back (`le_ofLe`), and what is read
from so many octets is less than the power of two that they can tell apart.
-/

namespace TrackerGateway

theorem Bytes.le_lt (bytes : Bytes) : le bytes < 256 ^ bytes.length := by
  induction bytes with
  | nil => simp [le]
  | cons b rest ih =>
    have hb : b.toNat < 256 := b.toNat_lt
    simp only [le, List.length_cons, Nat.pow_succ]
    omega

theorem Bytes.le_ofLe (width n : Nat) : le (ofLe width n) = n % 256 ^ width := by
  induction width generalizing n with
  | zero => simp [ofLe, le, Nat.mod_one]
  | succ width ih =>
    simp only [ofLe, le, ih, UInt8.toNat_ofNat']
    rw [Nat.pow_succ 256 width, Nat.mul_comm (256 ^ width) 256, Nat.mod_mul]

theorem Reader.lt_of_le {r r' : Reader} {width n : Nat} (h : r.le width = .ok (n, r')) :
    n < 256 ^ width := by
  unfold Reader.le Reader.take at h
  split at h
  · cases h
    apply Nat.lt_of_lt_of_le (Bytes.le_lt _)
    exact Nat.pow_le_pow_right (by decide) (List.length_take_le _ _)
  · cases h

end TrackerGateway
