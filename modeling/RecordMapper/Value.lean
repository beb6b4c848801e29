import RecordMapper.Failure
import RecordMapper.Double.Rounding

/-! Values that statements bind, and their conversion from and to JSON guided by a column's kind. -/

namespace RecordMapper

inductive Value where
  | null
  | int (n : Int64)
  | float (x : Double)
  | text (s : String)
  | bytes (octets : List UInt8)
  | bool (b : Bool)
  deriving DecidableEq, Inhabited

namespace Value

def kind? : Value → Option Kind
  | .null => none
  | .int _ => some .int
  | .float _ => some .float
  | .text _ => some .text
  | .bytes _ => some .bytes
  | .bool _ => some .bool

/-- A primary key that has not been given yet: zero, the empty text or null. -/
def isZero : Value → Bool
  | .null => true
  | .int n => n == 0
  | .text s => s.isEmpty
  | _ => false

/-- A JSON integer between 0 and 255. -/
def octet? : Json → Option UInt8
  | .int n => if 0 ≤ n ∧ n < 256 then some (UInt8.ofNat n.toNat) else none
  | _ => none

/-- The octets of a list, if every item is one. -/
def octets? : List Json → Option (List UInt8)
  | [] => some []
  | item :: rest =>
    match octet? item, octets? rest with
    | some octet, some octets => some (octet :: octets)
    | _, _ => none

/-- The value of a column of the given kind that a JSON field stands for. Null stands for null in every kind;
unsigned integers beyond the signed range keep their 64 bits; a float column takes integers as well. -/
def ofJson? : Kind → Json → Option Value
  | _, .null => some .null
  | .int, .int n => some (.int (Int64.ofInt n))
  | .float, .int n => some (.float (Double.ofInt n))
  | .float, .float x => some (.float x)
  | .text, .text s => some (.text s)
  | .bool, .bool b => some (.bool b)
  | .bytes, .list items => (octets? items).map .bytes
  | _, _ => none

def ofJson (kind : Kind) (json : Json) : Outcome Value :=
  match ofJson? kind json with
  | some value => .ok value
  | none => .error (.validation (.kindMismatch kind json))

/-- The JSON form of a value. JSON has no infinite floats and no NaN, so they become null. -/
def toJson : Value → Json
  | .null => .null
  | .int n => .int n.toInt
  | .float x => if x.isFinite then .float x else .null
  | .text s => .text s
  | .bytes octets => .list (octets.map fun octet => .int octet.toNat)
  | .bool b => .bool b

/-- The value that JSON stands for on its own, without a kind to go by: integers beyond the signed range are
floats, and a list has to be one of octets. -/
def ofPlainJson? : Json → Option Value
  | .null => some .null
  | .bool b => some (.bool b)
  | .int n => if n < Word.signedBound then some (.int (Int64.ofInt n)) else some (.float (Double.ofInt n))
  | .float x => some (.float x)
  | .text s => some (.text s)
  | .list items => (octets? items).map .bytes
  | .fields _ => none

end Value

end RecordMapper
