import RecordMapper.Double

/-! JSON values with integers and floats apart and object entries in their own order, and records: the
entries of one object, with at most one entry a name. -/

namespace RecordMapper

/-- Integers are those of 64 bits, signed or unsigned; every other number is a float. -/
inductive Json where
  | null
  | bool (value : Bool)
  | int (value : Int)
  | float (value : Double)
  | text (value : String)
  | list (items : List Json)
  | fields (entries : List (String × Json))
  deriving Inhabited

/-- The fields of an object by name, in order. -/
abbrev Record := List (String × Json)

namespace Record

/-- The value under a name. -/
def value? (name : String) : Record → Option Json
  | [] => none
  | (key, value) :: rest => if key = name then some value else value? name rest

/-- Gives a name a new value where it stands, or adds it at the end. -/
def put (name : String) (value : Json) : Record → Record
  | [] => [(name, value)]
  | (key, old) :: rest => if key = name then (key, value) :: rest else (key, old) :: put name value rest

def names (record : Record) : List String := record.map Prod.fst

end Record

namespace Json

def isNull : Json → Bool
  | .null => true
  | _ => false

mutual
/-- One entry a name everywhere: a later entry's value replaces the earlier one's, in the earlier place. -/
def settle : Json → Json
  | .list items => .list (settleItems items)
  | .fields entries =>
    .fields ((settleEntries entries).foldl (fun record (name, value) => Record.put name value record) [])
  | other => other

def settleItems : List Json → List Json
  | [] => []
  | item :: rest => settle item :: settleItems rest

def settleEntries : List (String × Json) → List (String × Json)
  | [] => []
  | (name, value) :: rest => (name, settle value) :: settleEntries rest
end

end Json

end RecordMapper
