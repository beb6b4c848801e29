import RecordMapper.Double.Extended

/-! Sums, products and quotients of doubles: exact on integers and ratios, then rounded once. Infinities and the
number that is none follow the usual rules of binary arithmetic. -/

namespace RecordMapper.Double

def nan : Double := assemble false (infinityMagnitude + 1)

def infinity (negative : Bool) : Double := assemble negative infinityMagnitude

def negated (x : Double) : Double := assemble (!x.isNegative) x.magnitude

/-- A finite number counted in the least positive double. -/
def signedUnits (x : Double) : Int := if x.isNegative then -(x.units : Int) else x.units

/-- The sum. Where two numbers cancel it is the positive zero, unless both are the negative one. -/
def plus (x y : Double) : Double :=
  if x.isNaN || y.isNaN then nan
  else if x.isFinite && y.isFinite then
    let sum := x.signedUnits + y.signedUnits
    let negative := if sum = 0 then x.isNegative && y.isNegative else sum < 0
    ofRatio negative sum.natAbs unitsPerOne
  else if x.isFinite then y
  else if y.isFinite || x.isNegative == y.isNegative then x
  else nan

def minus (x y : Double) : Double := x.plus y.negated

def times (x y : Double) : Double :=
  let negative := x.isNegative != y.isNegative
  if x.isNaN || y.isNaN then nan
  else if x.isFinite && y.isFinite then ofRatio negative (x.ratio.1 * y.ratio.1) (x.ratio.2 * y.ratio.2)
  else if x.isZero || y.isZero then nan
  else infinity negative

def dividedBy (x y : Double) : Double :=
  let negative := x.isNegative != y.isNegative
  if x.isNaN || y.isNaN then nan
  else if !x.isFinite then if y.isFinite then infinity negative else nan
  else if !y.isFinite then assemble negative 0
  else if y.isZero then if x.isZero then nan else infinity negative
  else ofRatio negative (x.ratio.1 * y.ratio.2) (x.ratio.2 * y.ratio.1)

/-- The whole part, toward zero; none for infinities and the number that is none. -/
def wholePart? (x : Double) : Option Int :=
  if x.isFinite then
    let size : Int := (x.ratio.1 / x.ratio.2 : Nat)
    some (if x.isNegative then -size else size)
  else none

end RecordMapper.Double
