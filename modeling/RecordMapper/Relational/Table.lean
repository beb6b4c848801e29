import RecordMapper.Name
import RecordMapper.Relational.Fault
import RecordMapper.Relational.Filter
import RecordMapper.Sql.Command

/-! Tables: named columns of a kind, one of them the key, and rows. Each row has a number, which is its key if that
is an integer, and rows are in the order of their numbers. Names of tables and columns are the same in either case. -/

namespace RecordMapper

/-- The data of one row by column name. -/
abbrev Tuple := List (String × Datum)

namespace Tuple

/-- What a column holds; NULL if there is no such column. -/
def get (column : String) (tuple : Tuple) : Datum := (firstNamed? column tuple).getD .null

/-- Replaces what a column holds. -/
def set (column : String) (datum : Datum) (tuple : Tuple) : Tuple :=
  tuple.map fun (name, old) => if name = column then (name, datum) else (name, old)

end Tuple

structure Table where
  name : String
  columns : List ColumnDef
  rows : List Tuple := []

namespace Table

def column? (table : Table) (name : String) : Option ColumnDef :=
  table.columns.find? fun column => Name.alike column.name name

def key? (table : Table) : Option ColumnDef := table.columns.find? ColumnDef.isKey

/-- The column of row numbers where no key is one. No name means it by itself. -/
def numberColumn : ColumnDef := ⟨"", .int, none, false, false⟩

/-- Whether a key is an integer. -/
def isNumber (key : ColumnDef) : Bool := Affinity.ofKind key.kind = .integer

/-- The columns of a row, the last of them perhaps its number. -/
def allColumns (table : Table) : List ColumnDef :=
  table.columns ++ if table.key?.any isNumber then [] else [numberColumn]

/-- The column of row numbers: the key, if it is an integer. -/
def rowKey (table : Table) : ColumnDef := (table.key?.filter isNumber).getD numberColumn

/-- The columns whose data no two rows share. -/
def uniqueNames (table : Table) : List String := table.rowKey.name :: (table.key?.map ColumnDef.name).toList

/-- The names of the row number besides that of an integer key. -/
def rowKeyNames : List String := ["rowid", "_rowid_", "oid"]

/-- The column that a name means, or else the row number. -/
def meant? (table : Table) (name : String) : Option ColumnDef :=
  match table.column? name with
  | some column => some column
  | none => if rowKeyNames.any fun other => Name.alike other name then some table.rowKey else none

/-- The name of the database that has the tables. -/
def database : String := "main"

/-- The column of a reference. A name before the column has to be the table's. -/
def column (table : Table) : ColumnRef → Option ColumnDef
  | ⟨[name]⟩ => table.meant? name
  | ⟨[owner, name]⟩ => if Name.alike owner table.name then table.meant? name else none
  | ⟨[first, owner, name]⟩ =>
    if Name.alike first database && Name.alike owner table.name then table.meant? name else none
  | _ => none

/-- What columns hold in a row. A name alone that is no column's is a text. -/
def env (table : Table) (tuple : Tuple) (ref : ColumnRef) : ColumnReading :=
  match table.column ref with
  | some column => ⟨tuple.get column.name, { affinity := .ofKind column.kind }⟩
  | none => ⟨.text (ref.parts.headD ""), {}⟩

/-- Whether a reference can be read: it means a column, or is a name alone. -/
def reads (table : Table) (ref : ColumnRef) : Bool := (table.column ref).isSome || ref.parts.length = 1

/-- Two keys next to each other that are equal and not NULL. -/
def repeats : List Datum → Bool
  | a :: b :: rest => (!a.isNull && a.order b = .eq) || repeats (b :: rest)
  | _ => false

/-- Sorts rows by what one column holds. -/
def sortedBy (column : String) (rows : List Tuple) : List Tuple :=
  rows.mergeSort fun a b => (a.get column).order (b.get column) ≠ .gt

/-- The key that follows those of rows in order. -/
def nextKey (rows : List Tuple) (key : String) : Int64 :=
  rows.foldl (fun next row => match row.get key with
    | .int n => if next ≤ n then n + 1 else next
    | _ => next) (match rows.head?.map (Tuple.get key) with
      | some (.int n) => n
      | _ => 1)

/-- A row number has to be an integer; one that is missing becomes the next. -/
def givenKey (rows : List Tuple) (key : String) (tuple : Tuple) : Except Fault Tuple :=
  match tuple.get key with
  | .int _ => .ok tuple
  | .null => .ok (tuple.set key (.int (nextKey rows key)))
  | _ => .error .mismatch

def isInt : Datum → Bool
  | .int _ => true
  | _ => false

/-- The first column of a row that lacks a value that is required. -/
def lacking? (table : Table) (row : Tuple) : Option ColumnDef :=
  table.columns.find? fun column => column.required && !column.isKey && (row.get column.name).isNull

/-- Refuses NULL where a value is required. -/
def checkRequired (table : Table) (rows : List Tuple) : Except Fault Unit :=
  match rows.findSome? table.lacking? with
  | some column => .error (.notNull table.name column.name)
  | none => .ok ()

/-- That two rows share what is to be unique. -/
def sharing (table : Table) (column : String) : Fault :=
  if table.key?.any fun key => key.name = column then .repeatedKey table.name column else .repeatedNumber table.name

/-- The table with other rows, put in order, if they keep its rules. -/
def withRows (table : Table) (rows : List Tuple) : Except Fault Table := do
  let number := table.rowKey.name
  if rows.any fun row => !isInt (row.get number) then throw .mismatch
  checkRequired table rows
  let sorted := sortedBy number rows
  for key in table.uniqueNames do
    if repeats ((sortedBy key sorted).map (Tuple.get key)) then throw (table.sharing key)
  return { table with rows := sorted }

/-- The first column whose data two rows must not share but do. -/
def clash? (table : Table) (a b : Tuple) : Option String :=
  table.uniqueNames.find? fun name => !(a.get name).isNull && (a.get name).order (b.get name) = .eq

/-- The first column that a row shares with one of several. -/
def clashAmong? (table : Table) (rows : List Tuple) (new : Tuple) : Option String :=
  table.uniqueNames.find? fun name =>
    !(new.get name).isNull && rows.any fun row => (new.get name).order (row.get name) = .eq

/-- The row with the given data in the given columns and NULL in the others. -/
def tupleOf (table : Table) (columns : List String) (data : List Datum) : Tuple :=
  table.allColumns.map fun column =>
    (column.name, (Affinity.ofKind column.kind).store ((firstNamed? column.name (columns.zip data)).getD .null))

/-- A new row as it is known before it is put into the table. Where the key is the number of the row, the others
are as they are given, but for integers that are to become floats. -/
def givenOf (table : Table) (columns : List String) (data : List Datum) (new : Tuple) : Tuple :=
  table.allColumns.map fun column =>
    let given := (firstNamed? column.name (columns.zip data)).getD .null
    let datum := if column.isKey || !table.key?.any isNumber then new.get column.name
      else match Affinity.ofKind column.kind, given with
        | .real, .int n => .real (Double.ofInt n.toInt)
        | _, given => given
    (column.name, datum)

/-- The table's own names of columns. -/
def ownNames (table : Table) (missing : String → Fault) (names : List String) : Except Fault (List String) :=
  names.mapM fun name =>
    match table.meant? name with
    | some column => .ok column.name
    | none => .error (missing name)

def noColumn (name : String) : Fault := "no such column: " ++ name

/-- That a row cannot be added with a value for a column. -/
def notNamed (table : Table) (name : String) : Fault := "table " ++ table.name ++ " has no column named " ++ name

/-- Refuses a filter that is too high or reads what the table has not. -/
def checkFilter (table : Table) (filter : List Formula) : Except Fault Unit := do
  Formula.check (!table.rows.isEmpty) filter
  match (Formula.allColumns filter).find? fun ref => !table.reads ref with
  | some ref => throw (noColumn (String.intercalate "." ref.parts))
  | none => return ()

/-- Rows for new data, numbers filled in where they are missing. -/
def newRows (table : Table) (columns : List String) : List Tuple → List (List Datum) → Except Fault (List Tuple)
  | rows, [] => .ok rows
  | rows, data :: rest => do
    let tuple ← givenKey rows table.rowKey.name (table.tupleOf columns data)
    newRows table columns (rows ++ [tuple]) rest

/-- Why rows cannot be added one after the other. -/
def firstFault (table : Table) (columns : List String) : List Tuple → List (List Datum) → Fault
  | _, [] => .mismatch
  | rows, data :: rest =>
    match givenKey rows table.rowKey.name (table.tupleOf columns data) with
    | .error fault => fault
    | .ok tuple =>
      match checkRequired table [tuple], table.clashAmong? rows tuple with
      | .error fault, _ => fault
      | _, some column => table.sharing column
      | _, none => firstFault table columns (rows ++ [tuple]) rest

/-- Adds rows. -/
def insert (table : Table) (columns : List String) (rows : List (List Datum)) : Except Fault Table := do
  let columns ← ownNames table table.notNamed columns
  if rows.any fun row => row.length ≠ columns.length then Fault.refuse "wrong number of values"
  match (newRows table columns table.rows rows).bind table.withRows with
  | .ok changed => return changed
  | .error _ => throw (firstFault table columns table.rows rows)

/-- Puts data into columns of a row, by the table's own names of them. Of several data for one column the last stays. -/
def assign (table : Table) (columns : List (String × Datum)) (tuple : Tuple) : Tuple :=
  columns.foldl (fun tuple (name, datum) =>
    match table.allColumns.find? fun column => column.name = name with
    | some column => tuple.set name ((Affinity.ofKind column.kind).store datum)
    | none => tuple) tuple

/-- Changes the rows that are chosen, and counts them. -/
def updateRows (chosen : Tuple → Bool) (change : Tuple → List (String × Datum)) (table : Table) :
    Except Fault (Nat × Table) := do
  let changed ← table.withRows (table.rows.map fun tuple =>
    if chosen tuple then table.assign (change tuple) tuple else tuple)
  return ((table.rows.filter chosen).length, changed)

/-- Sets columns in the rows that pass a filter. -/
def updateWhere (table : Table) (columns : List (String × Value)) (filter : List Formula) :
    Except Fault (Nat × Table) := do
  let names ← ownNames table noColumn (columns.map Prod.fst)
  checkFilter table filter
  table.updateRows (fun tuple => Formula.passes (table.env tuple) filter)
    fun _ => names.zip (columns.map fun (_, value) => .ofValue value)

/-- The result of the first arm whose value equals the key; NULL if there is none. -/
def choose (key : ColumnReading) : List (Value × Value) → Datum
  | [] => .null
  | (given, result) :: rest =>
    if (key.likeness.versus .eq key.datum (.ofValue given)).isTrue then .ofValue result else choose key rest

/-- Sets columns by choices on the key in the rows whose key is among those given. -/
def updateByKey (table : Table) (key : String) (columns : List (String × List (Value × Value)))
    (keys : List Value) : Except Fault (Nat × Table) := do
  let names ← ownNames table noColumn (columns.map Prod.fst)
  let reading := fun tuple => table.env tuple (.ofName key)
  table.updateRows
    (fun tuple => ((reading tuple).likeness.among (reading tuple).datum (keys.map .ofValue)).isTrue)
    fun tuple => names.zip (columns.map fun (_, arms) => choose (reading tuple) arms)

/-- Removes the rows that pass a filter, and counts them. -/
def deleteWhere (table : Table) (filter : List Formula) : Except Fault (Nat × Table) := do
  checkFilter table filter
  let passes := fun tuple => Formula.passes (table.env tuple) filter
  return ((table.rows.filter passes).length, { table with rows := table.rows.filter fun tuple => !passes tuple })

end Table

/-- Tables by name. -/
abbrev Tables := List Table

/-- A table's name after that of its database if it is given. -/
def TableRef.text (table : TableRef) : String :=
  match table.database with
  | some database => database ++ "." ++ table.name
  | none => table.name

namespace Tables

/-- Whether the database of a table is known. -/
def knows (table : TableRef) : Bool := table.database.all (Name.alike Table.database)

/-- The table of a name, if there is one. -/
def named? (tables : Tables) (name : String) : Option Table :=
  tables.find? fun table => Name.alike table.name name

def find (tables : Tables) (table : TableRef) : Except Fault Table :=
  match if knows table then tables.named? table.name else none with
  | some found => .ok found
  | none => .error ("no such table: " ++ table.text)

end Tables

end RecordMapper
