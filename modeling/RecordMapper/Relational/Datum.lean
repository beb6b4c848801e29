import RecordMapper.Condition
import RecordMapper.Relational.Truth
import RecordMapper.Row

/-! Values as a table holds them, their order, and the tests that SQL makes of them. There is no type of booleans:
they are the integers zero and one. -/

namespace RecordMapper

inductive Datum where
  | null
  | int (n : Int64)
  | real (x : Double)
  | text (s : String)
  | blob (octets : List UInt8)
  /-- A text of octets that are not all letters. -/
  | garbled (octets : List UInt8)
  /-- A text that is known to be a document; only functions of documents tell it from others. -/
  | document (s : String)
  deriving DecidableEq, Inhabited

namespace Datum

/-- What a bound value becomes. NaN becomes NULL. -/
def ofValue : Value → Datum
  | .null => .null
  | .int n => .int n
  | .float x => if x.isNaN then .null else .real x
  | .text s => .text s
  | .bytes octets => .blob octets
  | .bool b => .int (if b then 1 else 0)

/-- A document is nothing but a text. -/
def plain : Datum → Datum
  | .document s => .text s
  | datum => datum

def toCell : Datum → Cell
  | .null => .null
  | .int n => .int n
  | .real x => .double x
  | .text s | .document s => .text s
  | .blob octets => .blob octets
  | .garbled octets =>
    match Text.decode octets with
    | .ok s => .text s
    | .error fault => .unreadable ("error occurred while decoding: " ++ fault.message)

/-- The text of octets. -/
def ofOctets (octets : List UInt8) : Datum :=
  match Text.decode octets with
  | .ok s => .text s
  | .error _ => .garbled octets

def ofTruth : Truth → Datum
  | .no => .int 0
  | .unknown => .null
  | .yes => .int 1

def isNull : Datum → Bool
  | .null => true
  | _ => false

/-- The place of a datum's class in the order of all data. -/
def rank : Datum → Nat
  | .null => 0
  | .int _ | .real _ => 1
  | .text _ | .garbled _ | .document _ => 2
  | .blob _ => 3

/-- An integer and a float compared as numbers. -/
def compareIntReal (n : Int) (x : Double) : Ordering :=
  if x.isFinite then
    let size : Int := x.ratio.1
    compare (n * x.ratio.2) (if x.isNegative then -size else size)
  else if x.isNegative then .gt else .lt

def compareOctets : List UInt8 → List UInt8 → Ordering
  | [], [] => .eq
  | [], _ :: _ => .lt
  | _ :: _, [] => .gt
  | a :: as, b :: bs => (compare a.toNat b.toNat).then (compareOctets as bs)

/-- The order of all data: NULL first, then numbers, texts and blobs. -/
def order : Datum → Datum → Ordering
  | .int a, .int b => compare a.toInt b.toInt
  | .real a, .real b => compare a.position b.position
  | .int a, .real b => compareIntReal a.toInt b
  | .real a, .int b => (compareIntReal b.toInt a).swap
  | .text a, .text b => compare a b
  | .text a, .garbled b => compareOctets a.toUTF8.toList b
  | .garbled a, .text b => compareOctets a b.toUTF8.toList
  | .garbled a, .garbled b => compareOctets a b
  | .blob a, .blob b => compareOctets a b
  | a, b => compare a.rank b.rank

end Datum

/-- Whether two data in the given order stand in the relation. -/
def Relation.admits : Relation → Ordering → Bool
  | .eq, ordering => ordering = .eq
  | .notEq, ordering => ordering ≠ .eq
  | .lt, ordering => ordering = .lt
  | .lte, ordering => ordering ≠ .gt
  | .gt, ordering => ordering = .gt
  | .gte, ordering => ordering ≠ .lt

end RecordMapper
