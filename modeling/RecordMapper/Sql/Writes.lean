import RecordMapper.Model
import RecordMapper.Sql.Command

/-! Statements that change rows, made from a model's metadata with records, keys or a condition. A statement
that could touch every row is refused. -/

namespace RecordMapper

namespace TableRef

/-- A table of a database; the empty database name stands for none. Both names are checked, the table's first. -/
def make (database : Option String) (table : String) : Outcome TableRef := do
  checkedName (Name.check table)
  match database with
  | none => return ⟨none, table⟩
  | some name =>
    if name.isEmpty then return ⟨none, table⟩
    checkedName (Name.check name)
    return ⟨some name, table⟩

end TableRef

namespace Statement

/-- One row a record, with the values of all columns. -/
def insert (database : Option String) (metadata : Metadata) (records : List Record) : Outcome Statement := do
  if records.isEmpty then throw (.validation .emptyInsert)
  let rows ← records.mapM fun record => metadata.valuesOf record metadata.columns
  let table ← TableRef.make database metadata.table
  return ⟨.insert table (metadata.columns.map Field.column) rows, []⟩

/-- The key of a record that is to be updated; it must have been given. -/
def updateKey (metadata : Metadata) (record : Record) : Outcome Value := do
  let key ← metadata.keyOf record
  if key.isZero then throw (.validation (.updateWithoutKey metadata.table))
  return key

/-- For one column, the key and the new value of each record. -/
def updateArms (metadata : Metadata) (records : List (Record × Value)) (field : Field) :
    Outcome (String × List (Value × Value)) := do
  let arms ← records.mapM fun (record, key) => do
    let value ← metadata.valueOf record field
    return (key, value)
  return (field.column, arms)

/-- Sets every column besides the key in the rows that have a record's key. -/
def updateBatch (database : Option String) (metadata : Metadata) (records : List Record) : Outcome Statement := do
  if records.isEmpty then throw (.unsafeWhere "UPDATE")
  let keys ← records.mapM (updateKey metadata)
  let columns ← metadata.dataColumns.mapM (updateArms metadata (records.zip keys))
  if columns.isEmpty then throw (.validation (.nothingToUpdate metadata.table))
  let table ← TableRef.make database metadata.table
  return ⟨.updateByKey table metadata.keyColumn columns keys, []⟩

/-- Records that fit one statement if each binds so many parameters; at least one. -/
def rowsPerStatement (maxParams perRow : Nat) : Nat := max (maxParams / max perRow 1) 1

/-- Consecutive runs of a list, each of `size` items but the last, which may be shorter; at most `fuel` runs. -/
def runsFrom (size : Nat) : Nat → List α → List (List α)
  | 0, _ => []
  | _ + 1, [] => []
  | fuel + 1, item :: rest => (item :: rest).take size :: runsFrom size fuel ((item :: rest).drop size)

/-- A run takes at least one item as long as `size` is positive, so the length is fuel enough. -/
def runs (size : Nat) (items : List α) : List (List α) := runsFrom size items.length items

/-- Inserts split into as many statements as the greatest number of parameters demands. -/
def insertChunked (maxParams : Nat) (database : Option String) (metadata : Metadata) (records : List Record) :
    Outcome (List Statement) :=
  if records.isEmpty then (insert database metadata records).map fun statement => [statement]
  else (runs (rowsPerStatement maxParams metadata.columns.length) records).mapM (insert database metadata)

/-- Updates split likewise. A record binds two parameters for every column besides the key, and its key. -/
def updateBatchChunked (maxParams : Nat) (database : Option String) (metadata : Metadata)
    (records : List Record) : Outcome (List Statement) :=
  if records.isEmpty then (updateBatch database metadata records).map fun statement => [statement]
  else
    (runs (rowsPerStatement maxParams (2 * metadata.dataColumns.length + 1)) records).mapM
      (updateBatch database metadata)

/-- A column that a condition may set. -/
def settable (metadata : Metadata) (key : String) : Outcome String :=
  match metadata.field? key with
  | none => .error (.validation (.unknownColumn metadata.table key))
  | some field =>
    if field.isKey then .error (.validation (.keyUpdate metadata.table key)) else .ok field.column

/-- Sets the condition's new values in every row that matches it. -/
def updateByCondition (database : Option String) (metadata : Metadata) (condition : Condition) :
    Outcome Statement := do
  let upset ← match condition.upset with
    | none => throw (.validation .noUpset)
    | some upset => if upset.keys.isEmpty then throw (.validation .noUpset) else pure upset
  if upset.keys.length ≠ upset.values.length then
    throw (.upsetMismatch upset.keys.length upset.values.length)
  if !condition.restrictsRows then throw (.unsafeWhere "UPDATE")
  let columns ← upset.keys.mapM (settable metadata)
  let filter ← condition.formulas
  let table ← TableRef.make database metadata.table
  return ⟨.updateWhere table (columns.zip upset.values) filter, []⟩

/-- Deletes the rows with the given keys. -/
def deleteByIds (database : Option String) (metadata : Metadata) (ids : List Value) : Outcome Statement := do
  if ids.isEmpty then throw (.unsafeWhere "DELETE")
  if ids.any Value.isZero then throw (.validation (.deleteWithoutKey metadata.table))
  let table ← TableRef.make database metadata.table
  return ⟨.delete table [.among (.ofName metadata.keyColumn) false ids], []⟩

/-- Deletes every row that matches the condition. -/
def deleteByCondition (database : Option String) (metadata : Metadata) (condition : Condition) :
    Outcome Statement := do
  if !condition.restrictsRows then throw (.unsafeWhere "DELETE")
  let filter ← condition.formulas
  let table ← TableRef.make database metadata.table
  return ⟨.delete table filter, []⟩

end Statement

end RecordMapper
