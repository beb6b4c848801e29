import RecordMapper.Relational.Json.Tree

/-! Paths into documents: a dot and a name, or a place in brackets, which can be counted from the end. Only the steps
that are taken are looked at, so that a path may go wrong after a part that is not there. -/

namespace RecordMapper

/-- What a path leads to. -/
inductive Looked where
  /-- A part, with the octets before it or its name, and those before its value. -/
  | found (tree : JsonTree) (place valuePlace : Nat)
  | missing
  | wrong

/-- Why a path does not lead to what is to be changed. -/
inductive PathFault where
  | missing
  | wrong
  deriving DecidableEq

/-- What is done with the part that a path leads to. -/
inductive Edit where
  | insert
  | replace
  | set
  | remove
  deriving DecidableEq

/-- Whether an edit can add what is not there. -/
def Edit.adds : Edit → Bool
  | .insert | .set => true
  | .replace | .remove => false

namespace JsonPath

/-- The name after a dot and what follows it. -/
def readName (letters : List Char) : Option (Spelled × List Char) :=
  match letters with
  | '"' :: rest =>
    let inside := rest.takeWhile (· ≠ '"')
    match rest.dropWhile (· ≠ '"') with
    | [] => none
    | _ :: after => some (⟨inside, if inside.contains '\\' then .wide else .plain⟩, after)
  | _ =>
    let ends (c : Char) : Bool := c = '.' || c = '['
    let name := letters.takeWhile fun c => !ends c
    if name.isEmpty then none else some (⟨name, .plain⟩, letters.dropWhile fun c => !ends c)

/-- The place after a bracket, nothing where it lies before the start, and what follows it. -/
def readPlace (count : Nat) (letters : List Char) : Option (Option Nat × List Char) :=
  let digits := letters.takeWhile Numeral.isDigit
  match digits.isEmpty, letters.dropWhile Numeral.isDigit, letters with
  | false, ']' :: rest, _ => some (some (Numeral.value digits), rest)
  | _, _, '#' :: ']' :: rest => some (some count, rest)
  | _, _, '#' :: '-' :: rest =>
    let back := rest.takeWhile Numeral.isDigit
    match back.isEmpty, rest.dropWhile Numeral.isDigit with
    | true, _ => none
    | false, after =>
      if count < Numeral.value back then some (none, after)
      else
        match after with
        | ']' :: after => some (some (count - Numeral.value back), after)
        | _ => none
  | _, _, _ => none

/-- Whether a name in a document is the one of a path. -/
def named (name : Spelled) (entry : Spelled × JsonTree) : Bool := entry.1.characters = name.characters

/-- The value of the first entry of a name, with the octets before the entry and before its value. -/
def entry? (name : Spelled) (place : Nat) : List (Spelled × JsonTree) → Option (JsonTree × Nat × Nat)
  | [] => none
  | entry :: rest =>
    let after := place + JsonTree.sizeOf entry.1.letters
    if named name entry then some (entry.2, place, after) else entry? name (after + entry.2.size) rest

/-- What a path after its dollar sign leads to, by at most `fuel` steps. -/
def look : Nat → List Char → JsonTree → Nat → Nat → Looked
  | 0, _, _, _, _ => .wrong
  | fuel + 1, path, tree, place, valuePlace =>
    match path, tree with
    | [], _ => .found tree place valuePlace
    | '.' :: rest, _ =>
      match readName rest, tree with
      | none, _ => .wrong
      | some (name, after), .fields entries =>
        match entry? name (valuePlace + tree.opening) entries with
        | some (value, place, valuePlace) => look fuel after value place valuePlace
        | none => .missing
      | some _, _ => .missing
    | '[' :: rest, .list items =>
      match readPlace items.length rest with
      | none => .wrong
      | some (none, _) => .missing
      | some (some index, after) =>
        match items[index]? with
        | some item =>
          let place := valuePlace + tree.opening + JsonTree.itemsSize (items.take index)
          look fuel after item place place
        | none => .missing
    | '[' :: _, _ => .missing
    | _, _ => .wrong

/-- The parts inside, one of them replaced or left out. -/
def putItem (items : List JsonTree) (index : Nat) (changed : Option JsonTree) : List JsonTree :=
  items.take index ++ changed.toList ++ items.drop (index + 1)

/-- What a path starts in where there is nothing yet. -/
def bare (path : List Char) : JsonTree := if path.head? = some '.' then .fields [] else .list []

/-- A document with the part that a path leads to changed, by at most `fuel` steps; nothing if it is removed. -/
def edit (how : Edit) (new : JsonTree) : Nat → List Char → JsonTree → Except PathFault (Option JsonTree)
  | 0, _, _ => .error .wrong
  | fuel + 1, path, tree =>
    let created (rest : List Char) : Except PathFault (Option JsonTree) :=
      if !how.adds then .error .missing else if rest.isEmpty then .ok (some new) else edit how new fuel rest (bare rest)
    match path, tree with
    | [], _ => .ok (match how with
      | .remove => none
      | .insert => some tree
      | .replace | .set => some new)
    | '.' :: rest, _ =>
      match readName rest, tree with
      | none, _ => .error .wrong
      | some (name, after), .fields entries =>
        match entries.findIdx? (named name), entries.find? (named name) with
        | some index, some (label, value) => do
          let changed ← edit how new fuel after value
          return some (.fields (entries.take index ++ (changed.map fun value => (label, value)).toList ++
            entries.drop (index + 1)))
        | _, _ => do
          let value ← created after
          return some (.fields (entries ++ (value.map fun value => (name, value)).toList))
      | some _, _ => .error .missing
    | '[' :: rest, .list items =>
      match readPlace items.length rest with
      | none => .error .wrong
      | some (none, _) => .error .missing
      | some (some index, after) =>
        match items[index]? with
        | some item => return some (.list (putItem items index (← edit how new fuel after item)))
        | none =>
          if index = items.length then return some (.list (items ++ (← created after).toList)) else .error .missing
    | '[' :: _, _ => .error .missing
    | _, _ => .error .wrong

/-- What a path leads to. -/
def find (path : List Char) (tree : JsonTree) : Looked := look (path.length + 1) path tree 0 0

end JsonPath

mutual
/-- A document with the parts of another put over its own: NULL removes a part. -/
def JsonTree.patched (tree : JsonTree) : JsonTree → JsonTree
  | .fields entries =>
    .fields (patchedEntries (match tree with
      | .fields old => old
      | _ => []) entries)
  | other => other

def JsonTree.patchedEntries (old : List (Spelled × JsonTree)) :
    List (Spelled × JsonTree) → List (Spelled × JsonTree)
  | [] => old
  | (name, change) :: rest =>
    let index := old.findIdx (JsonPath.named name)
    let (label, value) := (old[index]?).getD (name, .null)
    match change with
    | .null => JsonTree.patchedEntries (old.eraseIdx index) rest
    | change => JsonTree.patchedEntries (old.take index ++ (label, JsonTree.patched value change) :: old.drop (index + 1)) rest
end

end RecordMapper
