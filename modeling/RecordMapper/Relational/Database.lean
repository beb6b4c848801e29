import RecordMapper.Relational.Query
import RecordMapper.Sql.Writes

/-! A database of tables that runs statements. A statement that fails changes nothing; a transaction keeps the
tables as they were before it. -/

namespace RecordMapper

structure Database where
  tables : Tables := []
  /-- Whether nothing can be written, so that there is never a table. -/
  readOnly : Bool := false
  /-- The number of rows that the last write touched. -/
  touched : Nat := 0
  /-- The tables before the transaction that is open. -/
  saved : Option Tables := none

namespace Database

/-- What a statement answers: rows, the number of rows it touched, or nothing. -/
inductive Answer where
  | rows (rows : List Row)
  | touched (count : Nat)
  | done

/-- Most parameters of one statement. -/
def greatestParams : Nat := 32766

/-- Replaces a table by the changed one. -/
def replace (tables : Tables) (table : Table) : Tables :=
  tables.map fun old => if Name.alike old.name table.name then table else old

/-- Changes one table. -/
def onTable (tables : Tables) (table : TableRef) (change : Table → Except Fault (Nat × Table)) :
    Except Fault (Answer × Tables) := do
  let found ← tables.find table
  let (count, changed) ← change found
  return (.touched count, replace tables changed)

def insertRows (columns : List String) (rows : List (List Datum)) (table : Table) :
    Except Fault (Nat × Table) := do
  let changed ← table.insert columns rows
  return (rows.length, changed)

/-- The start of names that a database keeps for itself. -/
def reservedStart : String := "sqlite_"

/-- The greatest number of columns. -/
def greatestColumns : Nat := 2000

/-- Adds an empty table, unless there is one of the name. -/
def createTable (tables : Tables) (table : TableRef) (columns : List ColumnDef) : Except Fault (Answer × Tables) :=
  if !Tables.knows table then Fault.refuse ("unknown database " ++ table.database.getD "")
  else if (tables.named? table.name).isSome then .ok (.done, tables)
  else if Name.alike (String.ofList (table.name.toList.take reservedStart.length)) reservedStart then
    Fault.refuse ("object name reserved for internal use: " ++ table.name)
  else if greatestColumns < columns.length then Fault.refuse ("too many columns on " ++ table.name)
  else
    match repeated? (columns.map ColumnDef.name) with
    | some name => Fault.refuse ("duplicate column name: " ++ name)
    | none => .ok (.done, tables ++ [⟨table.name, columns, []⟩])

/-- Removes a table, if it is there. No database of the name is no table either. -/
def dropTable (tables : Tables) (table : TableRef) : Answer × Tables :=
  if Tables.knows table then (.done, tables.filter fun old => !Name.alike old.name table.name) else (.done, tables)

/-- The row of a count. -/
def countRow (count : Nat) : Answer := .rows [[("COUNT(1)", .int (Int64.ofNat count))]]

/-- Runs a command other than raw text. -/
def runCommand (tables : Tables) : Command → Except Fault (Answer × Tables)
  | .insert table columns rows => onTable tables table (insertRows columns (rows.map fun row => row.map .ofValue))
  | .updateByKey table key columns keys => onTable tables table fun found => found.updateByKey key columns keys
  | .updateWhere table columns filter => onTable tables table fun found => found.updateWhere columns filter
  | .delete table filter => onTable tables table fun found => found.deleteWhere filter
  | .select query => do
    let rows ← query.run tables
    return (.rows rows, tables)
  | .countRows source filter => do
    let count ← source.count tables filter
    return (countRow count, tables)
  | .countResult query => do
    let count ← query.count tables
    return (countRow count, tables)
  | .createTable table columns => createTable tables table columns
  | .dropTable table => .ok (dropTable tables table)
  | .raw .. => Fault.refuse "not a command"

/-- The rows of a page. Both numbers have to fit a signed integer. -/
def slice (plan : PagePlan) (rows : List Row) : Except Fault (List Row) :=
  if plan.offset.toNat < Word.signedBound ∧ plan.count.toNat < Word.signedBound then
    .ok ((rows.drop plan.offset.toNat).take plan.count.toNat)
  else .error .mismatch

def limited : List PagePlan → Answer → Except Fault Answer
  | [], answer => .ok answer
  | [plan], .rows rows => (slice plan rows).map .rows
  | _, _ => .error "near \"LIMIT\": syntax error"

/-- The database with other tables, after a statement that has been answered. -/
def after (answer : Answer) (tables : Tables) (database : Database) : Except Fault Database :=
  if database.readOnly && database.tables.length < tables.length then .error .readOnly
  else
    let touched := match answer with
      | .touched count => count
      | _ => database.touched
    .ok { database with tables := tables, touched := touched }

def begin (database : Database) : Database := { database with saved := some database.tables }

def commit (database : Database) : Database := { database with saved := none }

/-- Goes back to the tables before the transaction, if one is open. -/
def rollback (database : Database) : Database :=
  { database with tables := database.saved.getD database.tables, saved := none }

end Database

end RecordMapper
