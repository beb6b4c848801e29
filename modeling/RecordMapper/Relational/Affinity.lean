import RecordMapper.Relational.Datum.Number
import RecordMapper.Text.Search

/-! Affinities: the class of data that a column prefers. Data are converted where they are stored in a column and
where they are compared with one; what cannot be converted without loss stays as it is. -/

namespace RecordMapper

inductive Affinity where
  /-- Of what is no column. -/
  | none
  | blob
  | text
  | numeric
  | integer
  | real
  deriving DecidableEq, Inhabited

/-- Orders of texts. -/
inductive Collation where
  | binary
  /-- ASCII letters are equal in either case. -/
  | caseless
  /-- Blanks at the end do not count. -/
  | trimmed
  deriving DecidableEq, Inhabited

/-- How two data are compared: what they are converted to first, and the order of texts. -/
structure Likeness where
  affinity : Affinity := .none
  collation : Collation := .binary
  deriving DecidableEq, Inhabited

namespace Affinity

def ofKind : Kind → Affinity
  | .int | .bool => .integer
  | .float => .real
  | .text => .text
  | .bytes => .blob

def isNumeric : Affinity → Bool
  | .numeric | .integer | .real => true
  | _ => false

/-- What a column of the affinity holds after a datum is put into it. A column of floats has one zero. -/
def store (affinity : Affinity) (datum : Datum) : Datum :=
  match affinity with
  | .none | .blob => datum
  | .text =>
    match datum with
    | .int _ | .real _ => .text (datum.text?.getD "")
    | _ => datum
  | .numeric | .integer =>
    match datum.numberIfWhole with
    | .real x => Datum.integerIfExact x
    | other => other
  | .real =>
    match datum.numberIfWhole with
    | .int n => .real (Double.ofInt n.toInt)
    | .real x => .real (if x.isZero then .zero else x)
    | other => other

/-- What two sides of a comparison are converted to: what the column prefers, and of two columns numbers if one
of them does. -/
def together : Affinity → Affinity → Affinity
  | .none, right => right
  | left, .none => left
  | left, right => if left.isNumeric || right.isNumeric then .numeric else .blob

/-- Both sides of a comparison, converted. Numbers become texts only beside a text. -/
def align (affinity : Affinity) (left right : Datum) : Datum × Datum :=
  if affinity.isNumeric then (left.numberIfWhole, right.numberIfWhole)
  else if affinity = .text then
    match left, right with
    | .text _, _ | _, .text _ | .garbled _, _ | _, .garbled _ => (Affinity.text.store left, Affinity.text.store right)
    | _, _ => (left, right)
  else (left, right)

/-- The affinity of a type's name. -/
def ofTypeName (name : String) : Affinity :=
  let letters := name.toList.map Char.toUpper
  let has (part : String) : Bool := Text.occursIn part.toList letters
  if has "INT" then .integer
  else if has "CHAR" || has "CLOB" || has "TEXT" then .text
  else if has "BLOB" || letters.isEmpty then .blob
  else if has "REAL" || has "FLOA" || has "DOUB" then .real
  else .numeric

end Affinity

namespace Collation

/-- A text as the collation sees it. -/
def key (collation : Collation) (text : String) : List Char :=
  match collation with
  | .binary => text.toList
  | .caseless => text.toList.map Char.toLower
  | .trimmed => (text.toList.reverse.dropWhile (· = ' ')).reverse

def order (collation : Collation) (left right : Datum) : Ordering :=
  match left, right with
  | .text a, .text b => compare (collation.key a) (collation.key b)
  | _, _ => left.order right

def ofName? (name : String) : Option Collation :=
  match String.ofList (name.toList.map Char.toUpper) with
  | "BINARY" => some .binary
  | "NOCASE" => some .caseless
  | "RTRIM" => some .trimmed
  | _ => none

end Collation

namespace Likeness

/-- The order of two data that are not NULL. -/
def order (likeness : Likeness) (left right : Datum) : Ordering :=
  let (left, right) := likeness.affinity.align left right
  likeness.collation.order left right

/-- A comparison, unknown if either side is NULL. -/
def versus (likeness : Likeness) (relation : Relation) (left right : Datum) : Truth :=
  if left.isNull || right.isNull then .unknown else .ofBool (relation.admits (likeness.order left right))

/-- Whether two data are the same; NULL is the same as NULL. -/
def same (likeness : Likeness) (left right : Datum) : Bool :=
  if left.isNull || right.isNull then left.isNull && right.isNull else likeness.order left right = .eq

/-- Whether a datum lies between two others, ends included. -/
def between (likeness : Likeness) (datum low high : Datum) : Truth :=
  (likeness.versus .gte datum low).and (likeness.versus .lte datum high)

/-- Whether a datum equals one of several. -/
def among (likeness : Likeness) (datum : Datum) (others : List Datum) : Truth :=
  .any (others.map (likeness.versus .eq datum))

end Likeness

end RecordMapper
