import RecordMapper.Json

/-! Looking into JSON documents. What is not there, or is of another shape, counts as empty. -/

namespace RecordMapper.Json

/-- The value of a field; null if there is none. -/
def get (json : Json) (name : String) : Json :=
  match json with
  | .fields record => (Record.value? name record).getD .null
  | _ => .null

def has (json : Json) (name : String) : Bool :=
  match json with
  | .fields record => (Record.value? name record).isSome
  | _ => false

def items : Json → List Json
  | .list inside => inside
  | _ => []

/-- The item at a place, counted from zero. -/
def item (json : Json) (index : Nat) : Json := (json.items[index]?).getD .null

def entries : Json → Record
  | .fields record => record
  | _ => []

def asText : Json → String
  | .text s => s
  | _ => ""

def asTexts (json : Json) : List String := json.items.map asText

def isTrue : Json → Bool
  | .bool b => b
  | _ => false

/-- An integer, written as a number or as its numeral in a text. -/
def asInt : Json → Int
  | .int n => n
  | .text s => s.toInt?.getD 0
  | _ => 0

def asNat (json : Json) : Nat := json.asInt.toNat

def asWord (json : Json) : UInt64 := UInt64.ofNat json.asNat

/-- What a value that may be null stands for. -/
def optional (json : Json) (decode : Json → α) : Option α :=
  match json with
  | .null => none
  | json => some (decode json)

/-- Null for what is missing. -/
def ofOption (encode : α → Json) : Option α → Json
  | none => .null
  | some a => encode a

def ofTexts (texts : List String) : Json := .list (texts.map .text)

/-- An integer as its numeral, which readers of any width take. -/
def numeral (n : Int) : Json := .text (toString n)

def ofWord (n : UInt64) : Json := numeral n.toNat

/-- The record of a list of names with values. -/
def ofPairs (json : Json) : Record :=
  json.items.foldl (fun record pair => Record.put (pair.item 0).asText (pair.item 1) record) []

end RecordMapper.Json
