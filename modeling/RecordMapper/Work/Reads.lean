import RecordMapper.Sql.Reads
import RecordMapper.Work.Basic

/-! Calls of a unit of work that read. Paged lists count first where the dialect asks for it, and then do not
read a page that starts beyond the last row. -/

namespace RecordMapper.Work

/-- The statement that reads by a condition, over its own source if it is complex. -/
def reading (database : Option String) (complex : Bool) (metadata : Metadata) (condition : Condition) :
    Outcome Statement :=
  if complex then Statement.selectComplex database condition else Statement.select database metadata condition

/-- The number in the first column of a counting statement's row. NULL counts as zero, and so does a negative
number. -/
def totalOf : Option Row → Outcome UInt64
  | none => .error (.validation .noCountRow)
  | some [] => .error (.sql "column index out of bounds: the len is 0, but the index is 0")
  | some ((_, cell) :: _) => do
    match ← cell.read 0 .int with
    | .int n => return UInt64.ofNat n.toInt.toNat
    | _ => return 0

/-- Counts the rows that a read by the condition returns. -/
def countRows (s : Surroundings σ) (metadata : Option Metadata) (condition : Condition) : Attempt σ UInt64 := do
  let statement ← Statement.count (← get).work.options.database metadata condition
  let row ← fetchFirst s statement
  totalOf row

/-- Reads the first row of a condition's page, if there is one. -/
def fetchOne (s : Surroundings σ) (model : Model α) (complex : Bool) (metadata : Metadata)
    (condition : Condition) : Attempt σ (Option α) := do
  let statement ← reading (← get).work.options.database complex metadata condition
  let offset := match condition.paging.plan? with
    | some plan => plan.offset
    | none => 0
  match ← fetchFirst s (statement.paginate ⟨offset, 1⟩) with
  | none => return none
  | some row => return some (← metadata.decodeRow model row)

/-- Reads all rows of a statement as objects. -/
def fetchObjects (s : Surroundings σ) (model : Model α) (metadata : Metadata) (statement : Statement) :
    Attempt σ (List α) := do
  let rows ← fetchAll s statement
  (rows.mapM (metadata.decodeRow model) : Outcome (List α))

/-- The condition's total, counted if it is not known yet, and the condition with the total. -/
def totalFor (s : Surroundings σ) (complex : Bool) (metadata : Metadata) (condition : Condition) :
    Act σ (Outcome UInt64 × Condition) := do
  match condition.paging.total with
  | some total => return (.ok total, condition)
  | none =>
    match ← (countRows s (if complex then none else some metadata) condition).run with
    | .ok total => return (.ok total, condition.setTotal total)
    | .error failure => return (.error failure, condition)

/-- Reads one page of a statement. -/
def fetchPage (s : Surroundings σ) (model : Model α) (complex : Bool) (metadata : Metadata)
    (condition : Condition) (statement : Statement) (plan : PagePlan) :
    Act σ (Outcome (List α) × Condition) := do
  let page := (fetchObjects s model metadata (statement.paginate plan)).run
  if (← get).work.dialect.countsFirst then
    match ← totalFor s complex metadata condition with
    | (.error failure, condition) => return (.error failure, condition)
    | (.ok total, condition) =>
      if plan.within total then return (← page, condition) else return (.ok [], condition)
  else return (← page, condition)

/-- Reads the objects that match a condition, and returns the condition with its total if that was counted. -/
def fetchList (s : Surroundings σ) (model : Model α) (complex : Bool) (metadata : Metadata)
    (condition : Condition) : Act σ (Outcome (List α) × Condition) := do
  match reading (← get).work.options.database complex metadata condition with
  | .error failure => return (.error failure, condition)
  | .ok statement =>
    match condition.paging.plan? with
    | none => return (← (fetchObjects s model metadata statement).run, condition)
    | some plan => fetchPage s model complex metadata condition statement plan

/-- Whether a row was found, and the object to look at afterwards: the one found, or else the one given. -/
def found (given : α) : Outcome (Option α) → Outcome Bool × α
  | .ok (some object) => (.ok true, object)
  | .ok none => (.ok false, given)
  | .error failure => (.error failure, given)

/-- Loads an object by its key. -/
def findById (s : Surroundings σ) (model : Model α) (object : α) : Act σ (Outcome Bool × α) := do
  let outcome ← recorded do
    let metadata ← s.registry.lookup model.name
    let record ← metadata.encode model object
    let key ← metadata.keyOf record
    if key.isZero then throw (.validation (.findWithoutKey metadata.table))
    fetchOne s model false metadata (({} : Condition).apply (.test metadata.keyColumn (.versus .eq key)))
  return found object outcome

/-- Loads the first object that matches a condition. -/
def findOne (s : Surroundings σ) (model : Model α) (complex : Bool) (condition : Condition) (object : α) :
    Act σ (Outcome Bool × α) := do
  let outcome ← recorded do
    let metadata ← modelFor s model condition
    fetchOne s model complex metadata condition
  return found object outcome

/-- Reads the objects that match a condition, and returns the condition as it is afterwards. -/
def findList (s : Surroundings σ) (model : Model α) (complex : Bool) (condition : Condition) :
    Act σ (Outcome (List α) × Condition) :=
  match modelFor s model condition with
  | .error failure => do
    let outcome ← recorded (throw failure)
    return (outcome, condition)
  | .ok metadata => do
    let (result, condition) ← fetchList s model complex metadata condition
    let outcome ← recorded (liftM result)
    return (outcome, condition)

/-- Counts the rows, or groups, that match a condition, and returns the condition with the total. -/
def count (s : Surroundings σ) (condition : Condition) : Act σ (Outcome UInt64 × Condition) := do
  let outcome ← recorded do
    let metadata ← if condition.isComplex then pure none else some <$> boundModel s "count" condition
    countRows s metadata condition
  match outcome with
  | .ok total => return (outcome, condition.setTotal total)
  | .error _ => return (outcome, condition)

/-- Whether any row matches a condition. -/
def exists? (s : Surroundings σ) (condition : Condition) : Act σ (Outcome Bool) := recorded do
  let metadata ← boundModel s "exists" condition
  let statement ← Statement.exists? (← get).work.options.database metadata condition
  return (← fetchFirst s statement).isSome

end RecordMapper.Work
