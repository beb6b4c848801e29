import RecordMapper.Json
import RecordMapper.Double.Rounding
import RecordMapper.Text.Numeral

/-! JSON numbers. A number of digits alone that fits 64 bits is an integer. Every other number is a float made
from at most 64 bits of its digits and one rounded product or quotient with a power of ten, which is the
nearest double for all short numbers and at worst a neighbour of it for long ones. -/

namespace RecordMapper.Json

/-- Why a text is not JSON. -/
inductive ReadFault where
  /-- A character that cannot stand here, or an early end. -/
  | unexpected
  /-- More than 127 lists and objects inside one another. -/
  | tooDeep
  /-- A number beyond the greatest finite double. -/
  | outOfRange
  /-- Text after the value. -/
  | trailing
  deriving DecidableEq

/-- Digits at the front, and the rest. -/
def digitRun (text : List Char) : List Char × List Char :=
  (text.takeWhile (fun c => (Text.digit? c).isSome), text.dropWhile (fun c => (Text.digit? c).isSome))

/-- Appends digits to a significand while it fits 64 bits. Returns it with the digits left over. -/
def gather (significand : Nat) : List Char → Nat × List Char
  | [] => (significand, [])
  | c :: rest =>
    let next := significand * 10 + (Text.digit? c).getD 0
    if next ≤ Word.greatest then gather next rest else (significand, c :: rest)

/-- Divides by a power of ten, in steps of 10^308; three steps take any 64-bit number to zero. -/
def shrink : Nat → Double → Nat → Double
  | 0, x, _ => x.overPositive (Double.powerOfTen 308)
  | fuel + 1, x, exponent =>
    if exponent ≤ 308 then x.overPositive (Double.powerOfTen exponent)
    else shrink fuel (x.overPositive (Double.powerOfTen 308)) (exponent - 308)

/-- `significand * 10 ^ exponent` as a float, unless it is beyond the greatest one. -/
def scaled (negative : Bool) (significand : Nat) (exponent : Int) : Except ReadFault Json :=
  let start := Double.ofRatio negative significand 1
  if significand = 0 then .ok (.float start)
  else if 0 ≤ exponent then
    if exponent ≤ 308 then
      let product := start.timesPositive (Double.powerOfTen exponent.toNat)
      if product.isFinite then .ok (.float product) else .error .outOfRange
    else .error .outOfRange
  else .ok (.float (shrink 3 start (-exponent).toNat))

/-- The exponent part, if there is one. -/
def readExponent : List Char → Except ReadFault (Option Int × List Char)
  | [] => .ok (none, [])
  | c :: rest =>
    if c = 'e' ∨ c = 'E' then
      let (negative, digits) : Bool × List Char :=
        match rest with
        | '+' :: more => (false, more)
        | '-' :: more => (true, more)
        | _ => (false, rest)
      match digitRun digits with
      | ([], _) => .error .unexpected
      | (run, after) =>
        let size : Int := run.foldl (fun n d => n * 10 + (Text.digit? d).getD 0) (0 : Nat)
        .ok (some (if negative then -size else size), after)
    else .ok (none, c :: rest)

/-- The fraction part, if there is one: digits after a point. -/
def readFraction : List Char → Except ReadFault (Option (List Char) × List Char)
  | '.' :: rest =>
    match digitRun rest with
    | ([], _) => .error .unexpected
    | (run, after) => .ok (some run, after)
  | rest => .ok (none, rest)

/-- A number without fraction and exponent. Minus zero and what exceeds 64 bits are floats. -/
def whole (negative : Bool) (significand : Nat) : Json :=
  if negative then
    if significand = 0 ∨ Word.signedBound < significand then .float (Double.ofRatio true significand 1)
    else .int (-significand)
  else .int significand

/-- A number whose sign has been read. -/
def readNumber (negative : Bool) (text : List Char) : Except ReadFault (Json × List Char) := do
  let (digits, rest) := digitRun text
  if digits.isEmpty ∨ (digits.head? = some '0' ∧ 1 < digits.length) then throw .unexpected
  let (fraction, rest) ← readFraction rest
  let (exponent, rest) ← readExponent rest
  let (significand, excess) := gather 0 digits
  if fraction.isNone ∧ exponent.isNone ∧ excess.isEmpty then return (whole negative significand, rest)
  let places := fraction.getD []
  let (significand, unused) := gather significand places
  let shift : Int := (excess.length : Int) - ((places.length : Int) - unused.length)
  return (← scaled negative significand (shift + exponent.getD 0), rest)

end RecordMapper.Json
