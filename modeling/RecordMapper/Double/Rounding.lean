import RecordMapper.Double

/-! The double nearest to a ratio, ties to the even neighbour, and what follows from it: integers as doubles,
and one rounded product or quotient with a power of ten. -/

namespace RecordMapper.Double

/-- The quotient rounded to the nearest natural, a tie to the even one. -/
def roundedQuotient (numerator denominator : Nat) : Nat :=
  let quotient := numerator / denominator
  let twice := 2 * (numerator % denominator)
  if twice < denominator then quotient
  else if denominator < twice then quotient + 1
  else if quotient % 2 = 0 then quotient else quotient + 1

/-- Exponent of the last bit that a double keeps of the ratio, counted up from -1074, the least one. -/
def lastBit (numerator denominator : Nat) : Nat :=
  let guess : Int := (numerator.log2 : Int) - denominator.log2
  let below : Bool :=
    if 0 ≤ guess then numerator < denominator * Nat.pow 2 guess.toNat
    else numerator * Nat.pow 2 (-guess).toNat < denominator
  let exponent := if below then guess - 1 else guess
  (exponent - 52 + 1074).toNat

/-- The double nearest to `numerator / denominator`; beyond the greatest finite one, infinity.
Rounding up to a power of two carries into the exponent field by itself. -/
def ofRatio (negative : Bool) (numerator denominator : Nat) : Double :=
  if numerator = 0 then assemble negative 0
  else
    let place := lastBit numerator denominator
    let rounded := roundedQuotient (numerator * unitsPerOne) (denominator * Nat.pow 2 place)
    assemble negative (min (place * fractionSize + rounded) infinityMagnitude)

def ofNat (n : Nat) : Double := ofRatio false n 1

def ofInt (n : Int) : Double := ofRatio (n < 0) n.natAbs 1

def powerOfTen (exponent : Nat) : Double := ofNat (Nat.pow 10 exponent)

/-- Product of the magnitudes of two finite doubles, rounded once. -/
def timesPositive (x y : Double) : Double :=
  ofRatio x.isNegative (x.ratio.1 * y.ratio.1) (x.ratio.2 * y.ratio.2)

/-- Quotient of the magnitudes of two finite doubles, rounded once. -/
def overPositive (x y : Double) : Double :=
  ofRatio x.isNegative (x.ratio.1 * y.ratio.2) (x.ratio.2 * y.ratio.1)

end RecordMapper.Double
