import TrackerGateway.Decimal.Binary64

/-!
# Units of the position record: speed in knots, course in degrees from 0 up to 360
-/

namespace TrackerGateway

namespace Binary64

/-- The remainder of a number by a positive integer, with the sign of the number. -/
def remainder (x : Float) (modulus : Nat) : Float :=
  let bits := x.toBits
  if isFinite bits then
    let p := parts bits
    Float.ofBits <|
      if 0 ≤ p.exponent then
        nearest p.negative (p.mantissa * Nat.pow 2 p.exponent.toNat % modulus) 1
      else
        let den := Nat.pow 2 (-p.exponent).toNat
        nearest p.negative (p.mantissa % (modulus * den)) den
  else Float.ofBits 0x7FF8000000000000

end Binary64

namespace Units

/-- Knots in one kilometre an hour. -/
def knotsPerKph : Float := 0.539957

/-- A speed in knots from kilometres an hour. -/
def knotsOfKph (kph : Float) : Float := kph * knotsPerKph

/-- A speed in kilometres an hour from knots. -/
def kphOfKnots (knots : Float) : Float := knots / knotsPerKph

/-- The course in the range from 0 up to 360. A negative number too small to change 360 becomes
0. -/
def normalizeCourse (course : Float) : Float :=
  let r := Binary64.remainder course 360
  let normalized := if r < 0 then r + 360 else r
  if 360 ≤ normalized then 0 else normalized

end Units
end TrackerGateway
