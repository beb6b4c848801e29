import RecordMapper.Relational.Datum.Number
import RecordMapper.Relational.Fault
import RecordMapper.Relational.Format

/-! Arithmetic on data. Integers stay integers as long as the result fits 64 bits and become floats beyond; NULL
makes everything NULL, and so does a division by zero. -/

namespace RecordMapper

/-- Operators that take two data. -/
inductive Operator where
  | add
  | subtract
  | multiply
  | divide
  | remainder
  /-- Joins two texts. -/
  | join
  | bitAnd
  | bitOr
  | shiftLeft
  | shiftRight
  deriving DecidableEq

namespace Datum

/-- An integer, if it fits, or else the double. -/
def fitted (exact : Int) (rounded : Double) : Datum :=
  if Word.fitsSigned exact then .int (Int64.ofInt exact) else ofDouble rounded

/-- The remainder keeps the sign of the first number. -/
def remainder (a b : Int) : Int := if b = -1 then 0 else Int.tmod a b

def arithmetic (operator : Operator) (left right : Datum) : Datum :=
  let x := left.toDouble
  let y := right.toDouble
  match operator, left.toNumber, right.toNumber with
  | _, .null, _ | _, _, .null => .null
  | .add, .int a, .int b => fitted (a.toInt + b.toInt) (x.plus y)
  | .subtract, .int a, .int b => fitted (a.toInt - b.toInt) (x.minus y)
  | .multiply, .int a, .int b => fitted (a.toInt * b.toInt) (x.times y)
  | .divide, .int a, .int b => if b = 0 then .null else fitted (Int.tdiv a.toInt b.toInt) (x.dividedBy y)
  | .add, _, _ => ofDouble (x.plus y)
  | .subtract, _, _ => ofDouble (x.minus y)
  | .multiply, _, _ => ofDouble (x.times y)
  | .divide, _, _ => if y.isZero then .null else ofDouble (x.dividedBy y)
  | .remainder, a, b =>
    if right.toInt = 0 then .null
    else
      let rest := remainder left.toInt.toInt right.toInt.toInt
      match a, b with
      | .int _, .int _ => .int (Int64.ofInt rest)
      | _, _ => .real (Double.ofInt rest)
  | _, _, _ => .null

/-- Bits of a shifted integer. A shift by a negative number goes the other way. -/
def shifted (n : Int64) (places : Int) : Int64 :=
  if 0 ≤ places then
    if places < 64 then Int64.ofBitVec (n.toBitVec <<< places.toNat) else 0
  else if -places < 64 then Int64.ofBitVec (BitVec.sshiftRight n.toBitVec (-places).toNat)
  else if n < 0 then -1 else 0

/-- What an operator makes of two data. -/
def combine (operator : Operator) (left right : Datum) : Datum :=
  if left.isNull || right.isNull then .null
  else
    match operator with
    | .join => .ofOctets (left.octets ++ right.octets)
    | .bitAnd => .int (left.toInt &&& right.toInt)
    | .bitOr => .int (left.toInt ||| right.toInt)
    | .shiftLeft => .int (shifted left.toInt right.toInt.toInt)
    | .shiftRight => .int (shifted left.toInt (-right.toInt.toInt))
    | _ => arithmetic operator left right

def negated (datum : Datum) : Datum := combine .subtract (.int 0) datum

def complement (datum : Datum) : Datum := if datum.isNull then .null else .int (~~~datum.toInt)

def absolute : Datum → Except Fault Datum
  | .null => .ok .null
  | .int n => if n.toInt = -Word.signedBound then .error .overflow else .ok (.int n.abs)
  | datum =>
    let x := datum.toDouble
    .ok (.real (if x.isNegative && !x.isZero then x.negated else x))

/-- One of the data, each compared with the best so far in the given order and taken if it stands to that as asked for;
NULL if one is NULL. -/
def extreme (order : Datum → Datum → Ordering) (better : Ordering → Bool) : List Datum → Datum
  | [] => .null
  | datum :: rest =>
    if (datum :: rest).any Datum.isNull then .null
    else rest.foldl (fun best other => if better (order other best) then other else best) datum

/-- Beyond this magnitude a double has no fraction. -/
def greatestFraction : Double := Double.ofNat 4503599627370496

/-- A number to so many places, thirty at most; a half goes away from zero. -/
def rounded (datum : Datum) (places : List Datum) : Datum :=
  if datum.isNull || places.any Datum.isNull then .null
  else
    let x := datum.toDouble
    let count : Int := max 0 (min 30 ((places.head?.map fun place => place.toInt.toInt32.toInt).getD 0))
    if !x.isFinite || greatestFraction.magnitude < x.magnitude then .real x
    else if count = 0 then
      let half := (Double.ofNat 1).dividedBy (Double.ofNat 2)
      let moved := if x.isNegative then x.minus half else x.plus half
      .real (Double.ofInt (moved.wholePart?.getD 0))
    else
      let decimal := x.atPlaces (Format.mostDigits true) count.toNat
      let size := Double.ofDecimal x.isNegative decimal.digits decimal.exponent
      .real (if size.isZero then .zero else size)

def sign (datum : Datum) : Datum :=
  match datum.numberIfWhole with
  | .int n => .int (if n < 0 then -1 else if n = 0 then 0 else 1)
  | .real x => .int (if x.isZero then 0 else if x.isNegative then -1 else 1)
  | _ => .null

end Datum

end RecordMapper
