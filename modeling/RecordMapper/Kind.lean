import RecordMapper.Json

/-! Kinds of column values, and what kind a JSON value suggests. -/

namespace RecordMapper

inductive Kind where
  | int
  | float
  | text
  | bytes
  | bool
  deriving DecidableEq, Inhabited

namespace Kind

def all : List Kind := [.int, .float, .text, .bytes, .bool]

/-- The kind's name in settings and documents. -/
def name : Kind → String
  | .int => "int"
  | .float => "float"
  | .text => "text"
  | .bytes => "bytes"
  | .bool => "bool"

/-- The kind's name in messages. -/
def title : Kind → String
  | .int => "Int"
  | .float => "Float"
  | .text => "Text"
  | .bytes => "Bytes"
  | .bool => "Bool"

def ofName? (name : String) : Option Kind := all.find? fun kind => kind.name = name

/-- A kind in a document: its name, or an object whose one entry has that name and no value. -/
def ofJson? : Json → Option Kind
  | .text name => ofName? name
  | .fields [(name, .null)] => ofName? name
  | _ => none

/-- The kind of a field with the given default value. Null tells nothing; a list is bytes if it holds nothing
but unsigned integers, whatever their size, and so is the empty list. -/
def infer : Json → Option Kind
  | .int _ => some .int
  | .float _ => some .float
  | .text _ => some .text
  | .bool _ => some .bool
  | .list items => if items.all isUnsigned then some .bytes else none
  | _ => none
where
  /-- An integer that is not negative. -/
  isUnsigned : Json → Bool
    | .int n => 0 ≤ n
    | _ => false

end Kind

end RecordMapper
