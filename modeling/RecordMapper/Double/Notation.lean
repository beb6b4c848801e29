import RecordMapper.Double.Shortest

/-! Layouts of a double as a decimal. A layout says which digits are written, which exponents are written out in
positions, and whether a whole number shows a decimal place. -/

namespace RecordMapper.Double

/-- Which digits are written: as few as read back, or a fixed number of significant ones. -/
inductive Digits where
  | fewest (tie : Tie)
  | rounded (count : Nat)

/-- How a decimal is laid out. Exponents are those of the first digit. -/
structure Layout where
  digits : Digits
  /-- Least and greatest exponent that is written out; `none` writes out all. -/
  positional : Option (Int × Int)
  /-- A whole number ends in `.0`. -/
  keepPlace : Bool
  /-- A single digit before an exponent is followed by `.0`. -/
  keepScientificPlace : Bool
  /-- Least number of digits of an exponent. -/
  exponentWidth : Nat
  infinity : String

/-- Scientific layout outside 10^-5 to 10^15, the exponent always with its sign; ties go to the even digit. -/
def Layout.compact : Layout := ⟨.fewest .even, some (-5, 15), true, false, 1, "inf"⟩

/-- Every digit in its position, however many zeros that takes; ties go up. -/
def Layout.plain : Layout := ⟨.fewest .up, none, false, false, 1, "inf"⟩

/-- Fifteen digits at most, scientific layout outside 10^-4 to 10^14, and always a decimal place. -/
def Layout.fifteen : Layout := ⟨.rounded 15, some (-4, 14), true, true, 2, "Inf"⟩

def Digits.of (digits : Digits) (x : Double) : Decimal :=
  match digits with
  | .fewest tie => x.shortest tie
  | .rounded count => x.significant count

def zeros (n : Nat) : List Char := List.replicate n '0'

/-- The digits with the point where the exponent puts it. -/
def positions (keepPlace : Bool) (d : Decimal) : List Char :=
  let digits := Nat.toDigits 10 d.digits
  if 0 ≤ d.exponent then digits ++ zeros d.exponent.toNat ++ (if keepPlace then ['.', '0'] else [])
  else
    let places := (-d.exponent).toNat
    if places < digits.length then
      digits.take (digits.length - places) ++ '.' :: digits.drop (digits.length - places)
    else '0' :: '.' :: (zeros (places - digits.length) ++ digits)

/-- One digit, the others after a point, and the exponent. -/
def Layout.scientific (layout : Layout) (d : Decimal) : List Char :=
  let digits := Nat.toDigits 10 d.digits
  let places :=
    if 1 < digits.length then '.' :: digits.drop 1 else if layout.keepScientificPlace then ['.', '0'] else []
  let exponent := Nat.toDigits 10 d.leading.natAbs
  digits.take 1 ++ places ++ 'e' :: (if 0 ≤ d.leading then '+' else '-') ::
    (zeros (layout.exponentWidth - exponent.length) ++ exponent)

def Layout.unsigned (layout : Layout) (d : Decimal) : List Char :=
  match layout.positional with
  | none => positions layout.keepPlace d
  | some (least, greatest) =>
    if d.digits = 0 ∨ (least ≤ d.leading ∧ d.leading ≤ greatest) then positions layout.keepPlace d
    else layout.scientific d

/-- The text of a double. NaN has no sign; all others show theirs, zero included. -/
def text (layout : Layout) (x : Double) : String :=
  if x.isNaN then "NaN"
  else
    let size := if x.isFinite then layout.unsigned (layout.digits.of x) else layout.infinity.toList
    String.ofList (if x.isNegative then '-' :: size else size)

end RecordMapper.Double
