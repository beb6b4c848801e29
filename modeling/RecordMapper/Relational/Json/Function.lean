import RecordMapper.Relational.Fault
import RecordMapper.Relational.Format
import RecordMapper.Relational.Json.Path
import RecordMapper.Relational.Json.Reader

/-! Functions of documents. What they give back is known to be a document, and stays one where another function of
documents takes it. -/

namespace RecordMapper

inductive JsonFunction where
  | document
  | list
  | length
  | extract
  /-- The part as a document, by a shorter path. -/
  | part
  /-- The part in SQL, by a shorter path. -/
  | partDatum
  | change (edit : Edit)
  | fields
  | patch
  | pretty
  | quote
  | remove
  | typeName
  | isValid
  | faultPlace
  deriving DecidableEq

namespace JsonTree

def malformed : Fault := "malformed JSON"

def badPath (path : String) : Fault := "bad JSON path: " ++ Text.enclose (Char.ofNat 39) path

/-- The document that a datum is the text of; there is none for NULL. -/
def ofDatum? (datum : Datum) : Except Fault (Option JsonTree) :=
  match datum.text? with
  | none => .ok none
  | some given =>
    match ofText? given.toList with
    | some (tree, _) => .ok (some tree)
    | none => .error malformed

/-- The text of a float in a document. -/
def realText (x : Double) : String :=
  if x.isFinite then Datum.realText x else if x.isNegative then "-9.0e+999" else "9.0e+999"

/-- A datum as a part of a document. -/
def ofDatum : Datum → Except Fault JsonTree
  | .null => .ok .null
  | .int n => .ok (.integer (toString n.toInt).toList)
  | .real x => .ok (.real (realText x).toList)
  | .text s => .ok (.text ⟨s.toList, .plain⟩)
  | .garbled octets => .ok (.text ⟨(Text.readLossily octets).toList, .plain⟩)
  | .blob _ => .error "JSON cannot hold BLOB values"
  | .document s =>
    match ofText? s.toList with
    | some (tree, _) => .ok tree
    | none => .error malformed

/-- The path of a datum after its dollar sign. A shorter path is a place, a name or a place in brackets. -/
def pathOf (short : Bool) (datum : Datum) : Except Fault (Option (String × List Char)) :=
  match datum.text? with
  | none => .ok none
  | some path =>
    match path.toList with
    | '$' :: rest => .ok (some (path, rest))
    | letters =>
      if !short then .error (badPath path)
      else
        match datum with
        | .int _ => .ok (some (path, '[' :: (letters ++ [']'])))
        | _ =>
          if letters.all isAlphanumeric then .ok (some (path, '.' :: letters))
          else if letters.head? = some '[' ∧ 3 ≤ letters.length ∧ letters.getLast? = some ']' then
            .ok (some (path, letters))
          else .ok (some (path, '.' :: '"' :: (letters ++ ['"'])))

/-- The part that a path leads to. -/
def part? (tree : JsonTree) (path : String) (steps : List Char) : Except Fault (Option JsonTree) :=
  match JsonPath.find steps tree with
  | .found part .. => .ok (some part)
  | .missing => .ok none
  | .wrong => .error (badPath path)

/-- The parts that paths lead to, together; nothing where a path is NULL. -/
def parts (tree : JsonTree) : List Datum → Except Fault (Option (List JsonTree))
  | [] => .ok (some [])
  | datum :: rest => do
    match ← pathOf false datum with
    | none => return none
    | some (path, steps) =>
      let part ← tree.part? path steps
      return (← parts tree rest).map fun others => part.getD .null :: others

/-- A document changed at paths, each with what belongs there. One that does not lead anywhere is passed over. -/
def changed (edit : Edit) (tree : JsonTree) : List Datum → Except Fault JsonTree
  | given :: new :: rest => do
    match ← pathOf false given with
    | none => changed edit tree rest
    | some (path, steps) =>
      match JsonPath.edit edit (← ofDatum new) (steps.length + 1) steps tree with
      | .ok result => changed edit (result.getD .null) rest
      | .error .missing => changed edit tree rest
      | .error .wrong => Except.error (badPath path)
  | _ => .ok tree

/-- A document without the parts that paths lead to; nothing where a path is NULL or the whole goes. -/
def without (tree : JsonTree) : List Datum → Except Fault (Option JsonTree)
  | [] => .ok (some tree)
  | given :: rest => do
    match ← pathOf false given with
    | none => return none
    | some (path, steps) =>
      match JsonPath.edit .remove .null (steps.length + 1) steps tree with
      | .ok none => return none
      | .ok (some result) => without result rest
      | .error .missing => without tree rest
      | .error .wrong => Except.error (badPath path)

/-- Data in turn as names and values. -/
def entries : List Datum → Except Fault (List (Spelled × JsonTree))
  | name :: value :: rest => do
    match name.plain with
    | .text label => return (⟨label.toList, .plain⟩, ← ofDatum value) :: (← entries rest)
    | _ => Fault.refuse "json_object() labels must be TEXT"
  | _ => .ok []

/-- The part of a document that a path leads to, or the whole; nothing where there is none. -/
def partOf (whole : Datum) (path : List Datum) : Except Fault (Option JsonTree) := do
  match ← ofDatum? whole, path with
  | some tree, given :: _ =>
    match ← pathOf false given with
    | some (path, steps) => tree.part? path steps
    | none => return none
  | found, _ => return found

end JsonTree

namespace JsonFunction

open JsonTree

/-- Names of functions with the least number of their arguments and the greatest, if there is one. -/
def table : List (String × Nat × Option Nat × JsonFunction) :=
  [("->", 2, some 2, .part), ("->>", 2, some 2, .partDatum), ("JSON", 1, some 1, .document),
   ("JSON_ARRAY", 0, none, .list), ("JSON_ARRAY_LENGTH", 1, some 2, .length),
   ("JSON_ERROR_POSITION", 1, some 1, .faultPlace), ("JSON_EXTRACT", 0, none, .extract),
   ("JSON_INSERT", 0, none, .change .insert), ("JSON_OBJECT", 0, none, .fields), ("JSON_PATCH", 2, some 2, .patch),
   ("JSON_PRETTY", 1, some 2, .pretty), ("JSON_QUOTE", 1, some 1, .quote), ("JSON_REMOVE", 0, none, .remove),
   ("JSON_REPLACE", 0, none, .change .replace), ("JSON_SET", 0, none, .change .set),
   ("JSON_TYPE", 1, some 2, .typeName), ("JSON_VALID", 1, some 2, .isValid)]

/-- The name of a change in what is reported of it. -/
def changeName : Edit → String
  | .insert => "insert"
  | .replace => "replace"
  | .set => "set"
  | .remove => "remove"

/-- Whether a datum is the text of a document, by a sum of the notations that are allowed. -/
def valid (datum : Datum) (notations : Int64) : Bool :=
  match ofText? (datum.text?.getD "").toList with
  | some (_, strict) => (notations &&& 2) ≠ 0 || (strict && (notations &&& 1) ≠ 0)
  | none => false

/-- The part of a document that a shorter path leads to. -/
def shortPart (whole given : Datum) : Except Fault (Option JsonTree) := do
  match ← ofDatum? whole with
  | none => return none
  | some tree =>
    match ← pathOf true given with
    | none => return none
    | some (path, steps) => tree.part? path steps

def apply : JsonFunction → List Datum → Except Fault Datum
  | .document, [x] => return ((← ofDatum? x).map JsonTree.document).getD .null
  | .list, given => return (JsonTree.list (← given.mapM ofDatum)).document
  | .length, whole :: path => do
    match ← partOf whole path with
    | none => return .null
    | some (.list items) => return .int (Int64.ofNat items.length)
    | some _ => return .int 0
  | .extract, [whole, given] => return ((← partOf whole [given]).map JsonTree.datum).getD .null
  | .extract, whole :: first :: others => do
    match ← ofDatum? whole with
    | none => return .null
    | some tree => return ((← tree.parts (first :: others)).map fun found => (JsonTree.list found).document).getD .null
  | .extract, _ => .ok .null
  | .part, [whole, given] => return ((← shortPart whole given).map JsonTree.document).getD .null
  | .partDatum, [whole, given] => return (((← shortPart whole given).map JsonTree.datum).getD .null).plain
  | .change edit, given => do
    if given.length % 2 = 0 then Fault.refuse ("json_" ++ changeName edit ++ "() needs an odd number of arguments")
    match ← ofDatum? (given.headD .null) with
    | none => return .null
    | some tree => return (← tree.changed edit given.tail).document
  | .fields, given => do
    if given.length % 2 = 1 then Fault.refuse "json_object() requires an even number of arguments"
    return (JsonTree.fields (← entries given)).document
  | .patch, [whole, amendment] => do
    match ← ofDatum? whole with
    | none => return .null
    | some tree => return ((← ofDatum? amendment).map fun other => (tree.patched other).document).getD .null
  | .pretty, whole :: indent => do
    let before := ((indent.headD .null).text?.getD "    ").toList
    return ((← ofDatum? whole).map fun tree => Datum.text (String.ofList (tree.laidOut before 0))).getD .null
  | .quote, [x] => return (← ofDatum x).document
  | .remove, [] => .ok .null
  | .remove, whole :: paths => do
    match ← ofDatum? whole with
    | none => return .null
    | some tree => return ((← tree.without paths).map JsonTree.document).getD .null
  | .typeName, whole :: path => return ((← partOf whole path).map fun tree => Datum.text tree.typeName).getD .null
  | .isValid, x :: notations => do
    let allowed := (notations.head?.map Datum.toInt).getD 1
    if allowed < 1 || 15 < allowed then Fault.refuse "FLAGS parameter to json_valid() must be between 1 and 15"
    return if x.isNull then .null else .int (if valid x allowed then 1 else 0)
  | .faultPlace, [x] => return if x.isNull then .null else .int (Int64.ofNat (JsonTree.faultPlace x.letters))
  | _, _ => .error "wrong number of arguments"

end JsonFunction

end RecordMapper
