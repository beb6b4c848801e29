import RecordMapper.Relational.Json.Function

/-! The parts of a document as rows: those right inside it, or all of them down to the last. -/

namespace RecordMapper

namespace JsonTree

/-- A step of a path to an entry of a name. -/
def namedStep (name : List Char) : List Char :=
  if !name.isEmpty && name.all isAlphanumeric then '.' :: name else '.' :: '"' :: (name ++ ['"'])

def placedStep (index : Nat) : List Char := '[' :: (Nat.toDigits 10 index ++ [']'])

/-- A part of a document where it stands. -/
structure Part where
  key : Datum
  tree : JsonTree
  /-- The octets before it. -/
  place : Nat
  /-- The octets before its own value. -/
  valuePlace : Nat
  /-- The path to what it stands in, and the step from there. -/
  path : List Char
  step : List Char

def Part.row (parent : Datum) (part : Part) : List Datum :=
  let value := part.tree.datum
  [part.key, value, .text part.tree.typeName, if part.tree.isComposed then .null else value,
    .int (Int64.ofNat part.place), parent, .text (String.ofList (part.path ++ part.step)),
    .text (String.ofList part.path)]

/-- The parts of a list that stand at places one after the other. -/
def itemParts (path : List Char) (index place : Nat) : List JsonTree → List Part
  | [] => []
  | item :: rest =>
    { key := .int (Int64.ofNat index), tree := item, place, valuePlace := place, path, step := placedStep index } ::
      itemParts path (index + 1) (place + item.size) rest

def entryParts (path : List Char) (place : Nat) : List (Spelled × JsonTree) → List Part
  | [] => []
  | (name, value) :: rest =>
    let after := place + sizeOf name.letters
    { key := .text (String.ofList name.characters), tree := value, place, valuePlace := after, path,
      step := namedStep name.letters } :: entryParts path (after + value.size) rest

/-- The parts right inside another one. -/
def Part.inside (part : Part) : List Part :=
  let path := part.path ++ part.step
  let start := part.valuePlace + part.tree.opening
  match part.tree with
  | .list items => itemParts path 0 start items
  | .fields entries => entryParts path start entries
  | _ => []

/-- A part and all inside it, at most `fuel` deep. -/
def Part.all (parent : Datum) : Nat → Part → List (List Datum)
  | 0, _ => []
  | fuel + 1, part =>
    part.row parent :: part.inside.flatMap fun inner => Part.all (.int (Int64.ofNat part.place)) fuel inner

/-- The steps of a path up to that from a part to the first one inside it, which stands at a place, and those that
follow; if no step is of that kind, all of them follow. -/
def stepsTo (tree : JsonTree) (place : Nat) : Nat → List Char → List Char × List Char
  | 0, steps => ([], steps)
  | count + 1, steps =>
    let isStart (c : Char) : Bool := c = '.' || c = '['
    let leads : Bool := match JsonPath.find (steps.take count) tree with
      | .found part _ valuePlace => valuePlace + part.opening = place
      | _ => false
    if (steps[count]?).any isStart && leads then steps.splitAt count else stepsTo tree place count steps

/-- The key that a step of a path asks for. -/
def stepKey : List Char → Datum
  | '[' :: rest => .int (Int64.ofNat (Numeral.value (rest.takeWhile Numeral.isDigit)))
  | '.' :: '"' :: rest => .text (String.ofList rest.dropLast)
  | '.' :: rest => .text (String.ofList rest)
  | _ => .null

/-- The part that a path leads to. Where all parts are asked for it counts as one inside another. -/
def partAt (tree : JsonTree) (path : String) (steps : List Char) (all : Bool) : Except Fault (Option Part) :=
  match JsonPath.find steps tree with
  | .wrong => .error (badPath path)
  | .missing => .ok none
  | .found part place valuePlace =>
    let (before, step) := if all then tree.stepsTo place steps.length steps else (steps, [])
    .ok (some { key := stepKey step, tree := part, place, valuePlace, path := '$' :: before, step })

end JsonTree

/-- Functions whose result is rows. -/
inductive TableFunction where
  /-- The parts right inside a document. -/
  | each
  /-- All parts of a document. -/
  | tree
  deriving DecidableEq

namespace TableFunction

def find? (name : String) : Option TableFunction :=
  match String.ofList (name.toList.map Char.toUpper) with
  | "JSON_EACH" => some .each
  | "JSON_TREE" => some .tree
  | _ => none

/-- The names of the columns. -/
def columns : List String := ["key", "value", "type", "atom", "id", "parent", "fullkey", "path"]

def greatestArguments : Nat := 2

open JsonTree in
/-- The rows for a document and perhaps a path to where they start. -/
def rows (function : TableFunction) (given : List Datum) : Except Fault (List (List Datum)) := do
  match ← ofDatum? (given.headD .null) with
  | none => return []
  | some whole =>
    match ← pathOf false ((given[1]?).getD (.text "$")) with
    | none => return []
    | some (path, steps) =>
      match ← whole.partAt path steps (function = .tree), function with
      | none, _ => return []
      | some part, .tree => return Part.all .null (2 * deepest) part
      | some part, .each => return if part.tree.isComposed then part.inside.map (Part.row .null) else [part.row .null]

end TableFunction

end RecordMapper
