import RecordMapper.Relational.Table
import RecordMapper.Relational.Term

/-! What names mean. A name is looked for in the rows of the query that it stands in, then among the labels of that
query's result, then in the queries around it, from the inside out. -/

namespace RecordMapper

/-- What is known of an expression besides its datum. -/
structure Sense where
  affinity : Affinity := .none
  collation : Option Collation := none
  /-- Whether the collation is written in the expression. -/
  explicit : Bool := false
  /-- Whether the datum can be a number. -/
  numbers : Bool := true
  /-- Whether it can be a text. -/
  texts : Bool := false

namespace Sense

/-- What is known by an affinity alone. -/
def ofAffinity (affinity : Affinity) : Sense where
  affinity
  numbers := affinity ≠ .text
  texts := !affinity.isNumeric

def ofDatum : Datum → Sense
  | .int _ | .real _ => {}
  | .text _ | .garbled _ | .document _ => { numbers := false, texts := true }
  | .null | .blob _ => { numbers := false }

/-- What is known of a datum that is one of two. -/
def either (a b : Sense) : Sense :=
  { affinity := if a.affinity = .none then b.affinity else a.affinity, collation := a.collation <|> b.collation
    numbers := a.numbers || b.numbers, texts := a.texts || b.texts }

/-- What remains of it where the expression is part of another. -/
def inside (sense : Sense) : Sense := if sense.explicit then { sense with affinity := .none } else {}

/-- What it is as a column of a query's result. Data that do not go with the affinity take it away. -/
def column (sense : Sense) : Sense :=
  let isMixed := sense.affinity = .text && sense.numbers || sense.affinity.isNumeric && sense.texts
  { ofAffinity (if isMixed then .blob else sense.affinity) with collation := sense.collation }

def orBinary (sense : Sense) : Collation := sense.collation.getD .binary

/-- How the data of two expressions are compared. The collation of the left one counts first, but one that is written
before one that is a column's. -/
def likeness (left right : Sense) : Likeness :=
  let first := if right.explicit && !left.explicit then right else left
  ⟨left.affinity.together right.affinity, (first.collation <|> right.collation).getD .binary⟩

/-- What remains of several where they are parts of an expression. -/
def gathered (senses : List Sense) : Sense := ((senses.find? Sense.explicit).map Sense.inside).getD {}

end Sense

/-- An expression once its names are known. -/
structure Meaning where
  term : Term
  sense : Sense := {}
  /-- The levels whose groups it summarizes, each with the name of the summary. -/
  summaries : List (Nat × String) := []
  /-- Whether it has a function of windows. -/
  windowed : Bool := false
  /-- The name of the column that it is. -/
  column : Option String := none
  /-- The data of a row; there are none of a single datum. -/
  fields : List (Term × Sense) := []
  /-- Whether it is a query. -/
  isQuery : Bool := false

/-- A column of rows that are being read: its name, where it belongs, and what is known of it. -/
structure Heading where
  owner : Option String
  database : Option String := none
  name : String
  sense : Sense := {}
  /-- Whether it is the number of the row. -/
  isRowKey : Bool := false
  /-- Whether only names of the row number mean it. -/
  isHidden : Bool := false
  /-- Whether it is the key of its table. -/
  isKey : Bool := false
  /-- Whether its name alone means a column before it, with which it is shared. -/
  isShared : Bool := false
  /-- The columns whose datum its name alone means where its own is NULL. -/
  partners : List Nat := []

/-- A window of rows once its names are known. -/
structure WindowMeaning where
  partitions : List Meaning := []
  sorts : List (Meaning × Direction) := []
  /-- What frames are counted in, their edges, and what they leave out. -/
  extent : Option (FrameUnit × EdgeTerm × EdgeTerm × Exclusion) := none

/-- One query: the columns of its rows, the labels of its result where they can be used, and its windows. -/
structure Level where
  header : List Heading
  labels : List (String × Meaning) := []
  windows : List (String × Except Fault WindowMeaning) := []

/-- Queries within each other, the outermost first. -/
abbrev Scope := List Level

def Table.headings (owner : String) (table : Table) : List Heading :=
  table.allColumns.map fun column =>
    let isHidden := column = Table.numberColumn
    { owner := some owner, database := some Table.database, name := if isHidden then "rowid" else column.name,
      sense := { Sense.ofAffinity (.ofKind column.kind) with collation := some .binary },
      isRowKey := column.name = table.rowKey.name, isHidden, isKey := column.isKey }

def Table.frames (table : Table) : List Frame := table.rows.map fun tuple => tuple.map Prod.snd

namespace Heading

/-- Whether a column can be meant by names that stand before its own. -/
def belongs (heading : Heading) : List String → Bool
  | [] => !heading.isShared
  | [owner] => heading.owner.any (Name.alike owner)
  | [database, owner] => heading.database.any (Name.alike database) && heading.owner.any (Name.alike owner)
  | _ => false

/-- Whether a name is one of the row number's and the column has that. -/
def isNumber (name : String) (heading : Heading) : Bool :=
  heading.isRowKey && Table.rowKeyNames.any (Name.alike name)

/-- What the column at a place means, by its name alone or with its owner's. -/
def meaning (depth index : Nat) (isAlone : Bool) (heading : Heading) : Meaning :=
  let own := Term.column depth index
  let term := if isAlone && !heading.partners.isEmpty then
      .apply .firstGiven .binary (own :: heading.partners.map (.column depth)) else own
  { term, sense := heading.sense, column := some heading.name }

end Heading

namespace Level

/-- The columns that a name can mean, with their places. A column's own name comes first. -/
def candidates (level : Level) (owners : List String) (name : String) : List (Heading × Nat) :=
  let near := level.header.zipIdx.filter fun (heading, _) => heading.belongs owners
  let own := near.filter fun (heading, _) => !heading.isHidden && Name.alike name heading.name
  if own.isEmpty then near.filter fun (heading, _) => heading.isNumber name else own

end Level

namespace Scope

/-- What a name means among queries from the inside out. A label of a function of windows can be out of place. -/
def search (windowing : Bool) (parts : List String) : List (Level × Nat) → Except Fault (Option Meaning)
  | [] => .ok none
  | (level, depth) :: outer =>
    let owners := parts.dropLast
    let name := parts.getLastD ""
    match level.candidates owners name with
    | [(heading, index)] => .ok (some (heading.meaning depth index owners.isEmpty))
    | _ :: _ :: _ => .error ("ambiguous column name: " ++ ".".intercalate parts)
    | [] =>
      match if owners.isEmpty then level.labels.find? fun entry => Name.alike entry.1 name else none with
      | some (_, meaning) =>
        if meaning.windowed && !windowing then .error ("misuse of aliased window function " ++ name)
        else .ok (some { meaning with column := none })
      | none => search windowing parts outer

/-- What a column's name means. A single name in double quotes that is no column's is a text, and the words of the
truth values are integers. -/
def find (scope : Scope) (windowing : Bool) (parts : List String) (quoted : Bool) : Except Fault Meaning := do
  let name := parts.getLastD ""
  match ← search windowing parts scope.zipIdx.reverse, parts with
  | some meaning, _ => return meaning
  | none, [_] =>
    if quoted then return { term := .literal (.text name) }
    else if Name.alike name "TRUE" then return { term := .literal (.int 1) }
    else if Name.alike name "FALSE" then return { term := .literal (.int 0) }
    else throw (Table.noColumn name)
  | none, _ => throw (Table.noColumn (".".intercalate parts))

end Scope

/-- What a query with a name is where another one reads it: its rows and the columns of them. -/
structure CommonRows where
  rowset : Rowset
  names : List String
  senses : List Sense

/-- A query with a name, and what it is or why it cannot be read. -/
structure Common where
  name : String
  found : Except Fault CommonRows
  /-- Whether it is the one that is just being built up row by row. -/
  isOpen : Bool := false

/-- What is known where an expression stands: tables, queries with names, the queries around it, and whether groups
and windows can be summarized there. -/
structure Around where
  tables : Tables
  common : List Common := []
  scope : Scope := []
  summing : Bool := false
  windowing : Bool := false

/-- Finding out what expressions mean; functions of windows are gathered on the way. -/
abbrev Naming := StateT (List Windowed) (Except Fault)

end RecordMapper
