import RecordMapper.Double.Extended

/-! The shortest decimal that reads back as a given double. For one digit, two digits and so on, the two
neighbours of the value on that decimal grid are tried against the interval of reals that round to the
double; the first grid with a hit gives the number of digits, and of two hits the nearer one is taken. -/

namespace RecordMapper.Double

/-- A decimal `digits * 10 ^ (exponent)`. -/
structure Decimal where
  digits : Nat
  exponent : Int
  deriving DecidableEq

namespace Decimal

def digitCount (n : Nat) : Nat := (Nat.toDigits 10 n).length

/-- Drops zeros at the end, moving them into the exponent; at most `fuel` of them. -/
def strip : Nat → Decimal → Decimal
  | 0, d => d
  | fuel + 1, d =>
    if d.digits ≠ 0 ∧ d.digits % 10 = 0 then strip fuel ⟨d.digits / 10, d.exponent + 1⟩ else d

/-- Exponent of the first digit: `d.digits` read with a point after its first digit. -/
def leading (d : Decimal) : Int := d.exponent + (digitCount d.digits - 1)

end Decimal

/-- The exponent of the first decimal digit of a positive ratio. -/
def decade (numerator denominator : Nat) : Int :=
  if denominator ≤ numerator then Decimal.digitCount (numerator / denominator) - 1
  else -(Decimal.digitCount ((denominator - 1) / numerator))

/-- Reals that round to a positive double, all over one denominator: below, the value, above. The ends
belong to it iff the significand is even. Below a power of two the neighbour is only half as far. -/
structure Interval where
  lower : Nat
  value : Nat
  upper : Nat
  denominator : Nat
  closed : Bool

def Interval.holds (i : Interval) (numerator denominator : Nat) : Bool :=
  let here := numerator * i.denominator
  if i.closed then i.lower * denominator ≤ here && here ≤ i.upper * denominator
  else i.lower * denominator < here && here < i.upper * denominator

def interval (x : Double) : Interval :=
  let m := x.significand
  let unit := Nat.pow 2 x.scale
  let down := if x.fraction = 0 ∧ 1 < x.exponentField then 1 else 2
  ⟨(4 * m - down) * unit, 4 * m * unit, (4 * m + 2) * unit, 4 * unitsPerOne, m % 2 == 0⟩

/-- The value of a decimal as a ratio. -/
def Decimal.ratio (d : Decimal) : Nat × Nat :=
  if 0 ≤ d.exponent then (d.digits * Nat.pow 10 d.exponent.toNat, 1)
  else (d.digits, Nat.pow 10 (-d.exponent).toNat)

/-- Which of two equally near decimals is taken: the larger, or the one with an even last digit. -/
inductive Tie where
  | up
  | even
  deriving DecidableEq

/-- The lower of two equally near decimals is taken, given its digits. -/
def Tie.keepsLower (tie : Tie) (digits : Nat) : Bool :=
  match tie with
  | .up => false
  | .even => digits % 2 == 0

/-- A ratio counted in units of ten to the given exponent. -/
def scaledBy (numerator denominator : Nat) (exponent : Int) : Nat × Nat :=
  if 0 ≤ exponent then (numerator, denominator * Nat.pow 10 exponent.toNat)
  else (numerator * Nat.pow 10 (-exponent).toNat, denominator)

/-- The decimal with at most the given number of digits that lies in the interval, the nearest to the value
if there are two. -/
def candidate? (tie : Tie) (i : Interval) (first : Int) (count : Nat) : Option Decimal :=
  let exponent := first - (count - 1)
  let scaled := scaledBy i.value i.denominator exponent
  let floor := scaled.1 / scaled.2
  let rest := scaled.1 % scaled.2
  let below : Decimal := ⟨floor, exponent⟩
  let above : Decimal := ⟨floor + 1, exponent⟩
  let hit (d : Decimal) : Bool := i.holds d.ratio.1 d.ratio.2
  match hit below, hit above with
  | true, true =>
    if 2 * rest < scaled.2 then some below
    else if scaled.2 < 2 * rest then some above
    else if tie.keepsLower floor then some below else some above
  | true, false => some below
  | false, true => some above
  | false, false => none

/-- Tries `count`, `count + 1`, … digits; with seventeen there always is a hit. -/
def search (tie : Tie) (i : Interval) (first : Int) : Nat → Nat → Decimal
  | 0, count => ⟨i.value * Nat.pow 10 count / i.denominator, -count⟩
  | fuel + 1, count => (candidate? tie i first count).getD (search tie i first fuel (count + 1))

/-- The shortest decimal for a finite double's magnitude. -/
def shortest (tie : Tie) (x : Double) : Decimal :=
  if x.isZero then ⟨0, 0⟩
  else
    let i := x.interval
    (search tie i (decade i.value i.denominator) 17 1).strip 20

/-- The first digits of a finite double's magnitude, eighteen or nineteen of them, the rest cut off. -/
def carried (x : Double) : Decimal :=
  if x.isZero then ⟨0, 0⟩
  else
    let (scaled, exponent) := (Extended.ofRatio x.ratio.1 x.ratio.2).scaled
    ⟨scaled.whole, exponent⟩

/-- A decimal with at most so many digits. One that is cut off counts up if it is five or more. -/
def Decimal.withDigits (count : Nat) (d : Decimal) : Decimal :=
  let surplus := Decimal.digitCount d.digits - count
  let unit := Nat.pow 10 surplus
  if surplus = 0 then d else ⟨(2 * d.digits + unit) / (2 * unit), d.exponent + surplus⟩

/-- A finite double's magnitude to so many significant digits, without zeros at the end. -/
def significant (count : Nat) (x : Double) : Decimal := (x.carried.withDigits count).strip 20

/-- A finite double's magnitude to so many decimal places, and to no more significant digits than `most`. -/
def atPlaces (most places : Nat) (x : Double) : Decimal :=
  let d := x.carried
  let count := d.leading + 1 + places
  if d.digits = 0 ∨ count < 0 then ⟨0, -places⟩
  else if count = 0 then ⟨if 5 * Nat.pow 10 (Decimal.digitCount d.digits - 1) ≤ d.digits then 1 else 0, -places⟩
  else d.withDigits (min most count.toNat)

end RecordMapper.Double
