import RecordMapper.Model
import RecordMapper.Text.Outline

/-! Records of a fixed shape: named fields with a type each, and the rule by which JSON becomes such a record.
Fields the shape does not name are passed over; a missing field or null is accepted only where optional. -/

namespace RecordMapper

inductive FieldType where
  /-- Integers within bounds; the label names the type in messages. -/
  | integer (least greatest : Int) (label : String)
  | double
  | text
  | character
  | bool
  | octets
  | optional (inside : FieldType)

namespace FieldType

/-- The value of a field that has not been set. -/
def blank : FieldType → Json
  | .integer .. => .int 0
  | .double => .float .zero
  | .text => .text ""
  | .character => .text (String.singleton (Char.ofNat 0))
  | .bool => .bool false
  | .octets => .list []
  | .optional _ => .null

def isOptional : FieldType → Bool
  | .optional _ => true
  | _ => false

def label : FieldType → String
  | .integer _ _ label => label
  | .double => "f64"
  | .text => "a string"
  | .character => "a character"
  | .bool => "a boolean"
  | .octets => "a sequence"
  | .optional _ => "option"

/-- A value as it is named in a message. -/
def describe : Json → String
  | .null => "null"
  | .bool b => "boolean `" ++ (if b then "true" else "false") ++ "`"
  | .int n => "integer `" ++ toString n ++ "`"
  | .float x => "floating point `" ++ x.text .plain ++ "`"
  | .text s => "string " ++ Text.shown s
  | .list _ => "sequence"
  | .fields _ => "map"

/-- The field's value for a JSON value. Integers are exact, a double takes integers as well, a character is a
text of length one. -/
def decode : FieldType → Json → Except String Json
  | .optional _, .null => .ok .null
  | .optional inside, json => decode inside json
  | .integer least greatest label, .int n =>
    if least ≤ n ∧ n ≤ greatest then .ok (.int n)
    else .error ("invalid value: " ++ describe (.int n) ++ ", expected " ++ label)
  | .double, .float x => .ok (.float x)
  | .double, .int n => .ok (.float (Double.ofInt n))
  | .text, .text s => .ok (.text s)
  | .character, .text s =>
    if s.length = 1 then .ok (.text s)
    else .error ("invalid value: " ++ describe (.text s) ++ ", expected a character")
  | .bool, .bool b => .ok (.bool b)
  | .octets, .list items =>
    match Value.octets? items with
    | some _ => .ok (.list items)
    | none => .error "invalid value: sequence, expected octets"
  | type, json => .error ("invalid type: " ++ describe json ++ ", expected " ++ type.label)

end FieldType

/-- Field names and types in order. -/
abbrev Shape := List (String × FieldType)

namespace Shape

def blank (shape : Shape) : Record := shape.map fun (name, type) => (name, type.blank)

/-- The fields of the shape taken from a record. -/
def decodeFields (record : Record) : Shape → Except String Record
  | [] => .ok []
  | (name, type) :: rest => do
    let value ← match record.value? name with
      | some json => type.decode json
      | none => if type.isOptional then .ok .null else .error ("missing field `" ++ name ++ "`")
    return (name, value) :: (← decodeFields record rest)

def decode (shape : Shape) : Json → Except String Json
  | .fields record => (shape.decodeFields record).map .fields
  | json => .error ("invalid type: " ++ FieldType.describe json ++ ", expected a record")

end Shape

end RecordMapper
