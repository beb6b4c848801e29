import RecordMapper.Word

/-! Binary floating-point numbers of 64 bits, kept as their bits. Arithmetic on them is exact arithmetic on
`Nat` followed by one rounding, so it can be reasoned about without the machine's own floats. -/

namespace RecordMapper

structure Double where
  bits : UInt64
  deriving DecidableEq, Inhabited

namespace Double

/-- The place of the sign, above all other bits. -/
def signBit : Nat := Word.signedBound

/-- Fractions that share one exponent: the numbers of 52 bits. -/
def fractionSize : Nat := 4503599627370496

/-- The least positive double goes this many times into one: 2 to the power of 1074. -/
def unitsPerOne : Nat := Nat.pow 2 1074

def isNegative (x : Double) : Bool := signBit ≤ x.bits.toNat

/-- All bits but the sign. Among numbers, a greater magnitude has greater bits. -/
def magnitude (x : Double) : Nat := x.bits.toNat % signBit

def exponentField (x : Double) : Nat := x.magnitude / fractionSize

def fraction (x : Double) : Nat := x.magnitude % fractionSize

/-- Infinity's bits, less the sign. What is above is no number. -/
def infinityMagnitude : Nat := 2047 * fractionSize

def isFinite (x : Double) : Bool := x.exponentField < 2047

def isNaN (x : Double) : Bool := infinityMagnitude < x.magnitude

def isZero (x : Double) : Bool := x.magnitude == 0

/-- A finite number is as many units as `significand` doubled `scale` times, up to its sign. -/
def significand (x : Double) : Nat :=
  if x.exponentField = 0 then x.fraction else x.fraction + fractionSize

def scale (x : Double) : Nat := x.exponentField - 1

/-- The magnitude of a finite number, counted in the least positive double. -/
def units (x : Double) : Nat := x.significand * Nat.pow 2 x.scale

/-- The magnitude of a finite number as a ratio of naturals with a positive denominator. -/
def ratio (x : Double) : Nat × Nat := (x.units, unitsPerOne)

/-- Joins a sign and the remaining bits. -/
def assemble (negative : Bool) (magnitude : Nat) : Double :=
  ⟨UInt64.ofNat (magnitude + if negative then signBit else 0)⟩

def zero : Double := ⟨0⟩

/-- The integer of the same value, if the number is finite and integral. -/
def toInt? (x : Double) : Option Int :=
  if x.isFinite then
    let (numerator, denominator) := x.ratio
    if numerator % denominator = 0 then
      let size : Int := numerator / denominator
      some (if x.isNegative then -size else size)
    else none
  else none

/-- Positions numbers on a line: of two numbers that are not NaN, the smaller has the smaller position, and
the two zeros share one. -/
def position (x : Double) : Int := if x.isNegative then -x.magnitude else x.magnitude

end Double

end RecordMapper
