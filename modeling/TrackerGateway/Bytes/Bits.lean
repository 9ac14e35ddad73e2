/-!
# Flags and packed fields inside a word

Words are natural numbers here; a reader of a fixed width word passes its value. Bits are counted
from the least significant one.
-/

namespace TrackerGateway.Bits

/-- Whether bit `index` of a word is set. A word has 64 bits. An index of 64 or more is none of
them: a shift by so many places traps where shifts are checked, and where they are not it counts
around the word, as here. -/
def isSet (value index : Nat) : Bool := value.testBit (index % 64)

theorem isSet_of_lt {value index : Nat} (h : index < 64) :
    isSet value index = value.testBit index := by
  rw [isSet, Nat.mod_eq_of_lt h]

/-- The number held in the bits from `first`, inclusive, up to `last`, exclusive. -/
def between (value first last : Nat) : Nat := (value >>> first) % Nat.pow 2 (last - first)

/-- The number held in the bits below `last`. -/
def below (value last : Nat) : Nat := between value 0 last

end TrackerGateway.Bits
