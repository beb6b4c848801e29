import RecordMapper.Sql.Tables
import RecordMapper.Sql.Writes
import RecordMapper.Work.Basic

/-! Calls of a unit of work that change the database. Every failure is remembered; every success on a mirrored
model is queued. -/

namespace RecordMapper.Work

/-- A fresh key of the model's kind. -/
def freshKey (s : Surroundings σ) (metadata : Metadata) : Attempt σ Value := do
  let reading ← (ask s.reading : Act σ Int)
  let scene ← get
  let (key, keys) ← (scene.keys.next reading scene.work.options.node : Outcome _)
  set { scene with keys := keys }
  return keyValue metadata.keyKind key

/-- The record of an object and the object itself, with a fresh key if it had none. -/
def keyed (s : Surroundings σ) (metadata : Metadata) (model : Model α) (object : α) :
    Attempt σ (Record × α) := do
  let record ← metadata.encode model object
  let key ← metadata.keyOf record
  if key.isZero then
    let record := metadata.setKey record (← freshKey s metadata)
    return (record, ← metadata.decode model record)
  else return (record, object)

/-- The records of objects, and the objects with keys. After a failure the objects before it keep their new
keys, and the others are as they were. -/
def keyedAll (s : Surroundings σ) (metadata : Metadata) (model : Model α) :
    List α → Act σ (Outcome (List Record) × List α)
  | [] => return (.ok [], [])
  | object :: rest => do
    match ← (keyed s metadata model object).run with
    | .error failure => return (.error failure, object :: rest)
    | .ok (record, object) =>
      let (records, objects) ← keyedAll s metadata model rest
      return (records.map (record :: ·), object :: objects)

/-- What has to be right before keys are given to a batch. -/
def savable (s : Surroundings σ) (model : Model α) (objects : List α) : Outcome Metadata := do
  checkBatch "save" objects.length
  s.registry.lookup model.name

/-- The records and objects of a batch that is to be saved. -/
def prepareSave (s : Surroundings σ) (model : Model α) (objects : List α) :
    Act σ (Outcome (Metadata × List Record) × List α) :=
  match savable s model objects with
  | .error failure => return (.error failure, objects)
  | .ok metadata => do
    let (records, objects) ← keyedAll s metadata model objects
    return (records.map fun records => (metadata, records), objects)

/-- Inserts prepared records. -/
def insertAll (s : Surroundings σ) (metadata : Metadata) (records : List Record) : Attempt σ UInt64 := do
  let work := (← get).work
  let statements ← Statement.insertChunked work.dialect.maxParams work.options.database metadata records
  let rows ← executeAll s statements
  enqueue s metadata (.save records)
  return rows

/-- Inserts objects. One without a key is given a fresh one first. Returns the number of rows and the objects as
they are afterwards. -/
def save (s : Surroundings σ) (model : Model α) (objects : List α) : Act σ (Outcome UInt64 × List α) := do
  let (prepared, objects) ← prepareSave s model objects
  let outcome ← recorded do
    let (metadata, records) ← prepared
    insertAll s metadata records
  return (outcome, objects)

/-- Reports a write that has touched no row. -/
def warnUntouched (s : Surroundings σ) (operation : String) (metadata : Metadata) (rows : UInt64) : Act σ Unit :=
  if rows = 0 then note s (.untouched operation metadata.table) else pure ()

/-- Updates every column of objects by their keys. -/
def update (s : Surroundings σ) (model : Model α) (objects : List α) : Act σ (Outcome UInt64) := recorded do
  checkBatch "update" objects.length
  let metadata ← s.registry.lookup model.name
  let records ← objects.mapM fun object => (metadata.encode model object : Outcome Record)
  let work := (← get).work
  let statements ← Statement.updateBatchChunked work.dialect.maxParams work.options.database metadata records
  let rows ← executeAll s statements
  warnUntouched s "update" metadata rows
  enqueue s metadata (.update records)
  return rows

/-- Sets a condition's new values in every row that matches it. -/
def updateWhere (s : Surroundings σ) (condition : Condition) : Act σ (Outcome UInt64) := recorded do
  let metadata ← boundModel s "update by condition" condition
  let statement ← Statement.updateByCondition (← get).work.options.database metadata condition
  let rows ← execute s statement
  warnUntouched s "update_by_cnd" metadata rows
  enqueue s metadata (.updateWhere condition)
  return rows

/-- Deletes the rows with the given keys. -/
def deleteKeys (s : Surroundings σ) (metadata : Metadata) (keys : List Value) : Attempt σ UInt64 := do
  let statement ← Statement.deleteByIds (← get).work.options.database metadata keys
  let rows ← execute s statement
  warnUntouched s "delete" metadata rows
  enqueue s metadata (.delete keys)
  return rows

/-- Deletes objects by their keys. -/
def delete (s : Surroundings σ) (model : Model α) (objects : List α) : Act σ (Outcome UInt64) := recorded do
  checkBatch "delete" objects.length
  let metadata ← s.registry.lookup model.name
  let keys ← objects.mapM fun object => do
    let record ← metadata.encode model object
    (metadata.keyOf record : Outcome Value)
  deleteKeys s metadata keys

/-- Deletes the rows of a model with the given keys. -/
def deleteById (s : Surroundings σ) (model : Model α) (keys : List Value) : Act σ (Outcome UInt64) := recorded do
  checkBatch "delete by id" keys.length
  let metadata ← s.registry.lookup model.name
  deleteKeys s metadata keys

/-- Deletes every row that matches a condition. -/
def deleteWhere (s : Surroundings σ) (condition : Condition) : Act σ (Outcome UInt64) := recorded do
  let metadata ← boundModel s "delete by condition" condition
  let statement ← Statement.deleteByCondition (← get).work.options.database metadata condition
  let rows ← execute s statement
  warnUntouched s "delete_by_cnd" metadata rows
  enqueue s metadata (.deleteWhere condition)
  return rows

/-- Runs a trusted statement. -/
def executeRaw (s : Surroundings σ) (text : String) (params : List Value) : Act σ (Outcome UInt64) :=
  recorded (execute s ⟨.raw text params, []⟩)

/-- Makes a model's table if it is not there. -/
def createTable (s : Surroundings σ) (model : Model α) : Act σ (Outcome Unit) := recorded do
  let metadata ← s.registry.lookup model.name
  let statement ← Statement.createTable (← get).work.options.database metadata
  discard (execute s statement)

/-- Drops a model's table if it is there. -/
def dropTable (s : Surroundings σ) (model : Model α) : Act σ (Outcome Unit) := recorded do
  let metadata ← s.registry.lookup model.name
  let statement ← Statement.dropTable (← get).work.options.database metadata
  discard (execute s statement)

end RecordMapper.Work
