import RecordMapper.Double.Rounding

/-! Binary floats with 64 bits of digits, in which decimals are scaled by powers of ten step by step. Each step is
rounded to the nearest, and of two to the even one, so the result of several is not always the nearest. -/

namespace RecordMapper

/-- The number that `digits` become when they are doubled `exponent` times. -/
structure Extended where
  digits : Nat
  exponent : Int

namespace Extended

/-- The greatest number of digits in base two. -/
def precision : Nat := 64

/-- Keeps as many digits as there can be. -/
def rounded (x : Extended) : Extended :=
  let surplus := x.digits.log2 + 1 - precision
  if surplus = 0 then x else ⟨Double.roundedQuotient x.digits (Nat.pow 2 surplus), x.exponent + surplus⟩

def times (x y : Extended) : Extended := rounded ⟨x.digits * y.digits, x.exponent + y.exponent⟩

/-- The nearest to a ratio. A last digit tells whether anything was cut off before rounding. -/
def ofRatio (numerator denominator : Nat) : Extended :=
  let shift : Int := precision + 2 + denominator.log2 - numerator.log2
  let numerator := numerator * Nat.pow 2 shift.toNat
  let denominator := denominator * Nat.pow 2 (-shift).toNat
  let last := if numerator % denominator = 0 then 0 else 1
  rounded ⟨2 * (numerator / denominator) + last, -shift - 1⟩

/-- A power of ten. -/
def tenTo (exponent : Int) : Extended := ofRatio (Nat.pow 10 exponent.toNat) (Nat.pow 10 (-exponent).toNat)

/-- The value as a ratio of naturals with a positive denominator. -/
def ratio (x : Extended) : Nat × Nat :=
  (x.digits * Nat.pow 2 x.exponent.toNat, Nat.pow 2 (-x.exponent).toNat)

def below (x y : Extended) : Bool := x.ratio.1 * y.ratio.2 < y.ratio.1 * x.ratio.2

/-- The number without its fraction. -/
def whole (x : Extended) : Nat := x.ratio.1 / x.ratio.2

/-- Multiplies by a power of ten so many times. -/
def raisedBy (size : Int) : Nat → Extended → Extended
  | 0, x => x
  | count + 1, x => raisedBy size count (x.times (tenTo size))

/-- Multiplies by a power of ten: first by hundreds of places, then by tens, then by single ones. -/
def raised (exponent : Int) (x : Extended) : Extended :=
  let sign : Int := if exponent < 0 then -1 else 1
  let count := exponent.natAbs
  raisedBy sign (count % 10) (raisedBy (sign * 10) (count % 100 / 10) (raisedBy (sign * 100) (count / 100) x))

/-- Multiplies by a power of ten as long as a test holds, and takes the power off an exponent each time. -/
def raisedWhile (test : Extended → Bool) (size : Int) : Nat → Extended × Int → Extended × Int
  | 0, scaled => scaled
  | fuel + 1, (x, exponent) =>
    if test x then raisedWhile test size fuel (x.times (tenTo size), exponent - size) else (x, exponent)

/-- A positive number from the seventeenth power of ten up to the nineteenth, and the power that it has lost. -/
def scaled (x : Extended) : Extended × Int :=
  let atLeast (power : Int) (x : Extended) : Bool := !x.below (tenTo power)
  let short (power : Int) (x : Extended) : Bool := x.below (tenTo power)
  if atLeast 19 x then
    raisedWhile (atLeast 19) (-1) 10 (raisedWhile (atLeast 29) (-10) 10 (raisedWhile (atLeast 119) (-100) 4 (x, 0)))
  else
    raisedWhile (short 17) 1 10 (raisedWhile (short 7) 10 11 (raisedWhile (short (-97)) 100 4 (x, 0)))

end Extended

namespace Double

/-- The digits of a decimal that count: as many as fit 64 bits, and the number of those that are cut off. -/
def counted (digits : Nat) : Nat × Nat :=
  let enough := 1844674407370955160
  let surplus := (Nat.toDigits 10 digits).length - 19
  if enough ≤ digits / Nat.pow 10 surplus then (digits / Nat.pow 10 surplus, surplus)
  else (digits / Nat.pow 10 (surplus - 1), surplus - 1)

/-- Moves places from the exponent into the digits, or the other way, as far as they fit. -/
def balanced : Nat → Nat → Int → Nat × Int
  | 0, digits, exponent => (digits, exponent)
  | fuel + 1, digits, exponent =>
    if 0 < exponent ∧ digits < 1844674407370955161 then balanced fuel (digits * 10) (exponent - 1)
    else if exponent < 0 ∧ digits % 10 = 0 then balanced fuel (digits / 10) (exponent + 1)
    else (digits, exponent)

/-- The double that `digits * 10 ^ exponent` is read as. Exponents far beyond those of any double are cut short. -/
def ofDecimal (negative : Bool) (digits : Nat) (exponent : Int) : Double :=
  let (digits, surplus) := counted digits
  let exponent := exponent + surplus
  if digits = 0 ∨ exponent < -400 then assemble negative 0
  else if 400 < exponent then assemble negative infinityMagnitude
  else
    let (digits, exponent) := balanced 20 digits exponent
    if exponent = 0 then ofRatio negative digits 1
    else
      let scaled := Extended.raised exponent (Extended.ofRatio digits 1)
      let greatest := (assemble false (infinityMagnitude - 1)).ratio
      if (Extended.ofRatio greatest.1 greatest.2).below scaled then assemble negative infinityMagnitude
      else ofRatio negative scaled.ratio.1 scaled.ratio.2

end Double

end RecordMapper
