import RecordMapper.Keys
import RecordMapper.Registry
import RecordMapper.Row
import RecordMapper.Settings
import RecordMapper.Sql.Command
import RecordMapper.Work.Event

/-! A unit of work: one connection or transaction, the failures met so far and the writes to repeat later. The
database, the clock, the second store and the log are surroundings whose answers may be anything. -/

namespace RecordMapper

/-- A database's answer to one request. -/
inductive Reply (α : Type) where
  | done (value : α)
  | refused (text : String)
  /-- No answer within the time allowed. -/
  | silent

/-- Everything outside a unit of work that it talks to, with state of its own. -/
structure Surroundings (σ : Type) where
  registry : Registry
  /-- Runs a statement; the answer is the number of rows it touched. -/
  execute : Statement → σ → Reply UInt64 × σ
  /-- Runs a statement; the answer is the rows it returns. -/
  fetch : Statement → σ → Reply (List Row) × σ
  commit : σ → Reply Unit × σ
  rollback : σ → Reply Unit × σ
  /-- Takes a connection back that is in no transaction. -/
  release : σ → σ
  /-- Takes back what a unit of work holds that was never closed. -/
  abandon : σ → σ
  /-- Reads the clock, in milliseconds since the start of 2020. -/
  reading : σ → Int × σ
  note : Event → σ → σ
  store : Option (SecondStore σ)

/-- What an open unit of work holds. -/
inductive Hold where
  | connection
  | transaction
  deriving DecidableEq

structure Work where
  dialect : Dialect
  options : WorkOptions
  /-- The time each statement may take. -/
  timeout : Duration
  /-- Nothing once the unit of work has been closed. -/
  hold : Option Hold
  /-- Messages of the failed calls, in order. -/
  errors : List String := []
  /-- Writes to repeat in the second store after the commit, in order. -/
  pending : List QueuedWrite := []

namespace Work

def isClosed (work : Work) : Bool := work.hold.isNone

def isTransactional (work : Work) : Bool := work.hold = some .transaction

open Text in
def outline (work : Work) : Outline :=
  .group "Manager" [
    ("dialect", .text work.dialect.name),
    ("options", work.options.outline),
    ("closed", .flag work.isClosed),
    ("errors", .items (work.errors.map .text)),
    ("pending", .number work.pending.length)]

end Work

/-- A unit of work with the key source it shares and the state of its surroundings. -/
structure Scene (σ : Type) where
  work : Work
  keys : KeySource
  world : σ

/-- A call on a unit of work. -/
abbrev Act (σ : Type) := StateM (Scene σ)

/-- A part of a call that can fail; what it has changed until then stays changed. -/
abbrev Attempt (σ : Type) := ExceptT Failure (Act σ)

namespace Work

/-- Asks the surroundings. -/
def ask (request : σ → α × σ) : Act σ α := fun scene =>
  let (answer, world) := request scene.world
  (answer, { scene with world := world })

/-- Tells the surroundings. -/
def tell (change : σ → σ) : Act σ Unit := ask fun world => ((), change world)

def note (s : Surroundings σ) (event : Event) : Act σ Unit := tell (s.note event)

/-- Changes the unit of work. -/
def change (update : Work → Work) : Act σ Unit := modify fun scene => { scene with work := update scene.work }

/-- The result of a reply: silence is a timeout. -/
def ofReply (limit : Duration) : Reply α → Outcome α
  | .done value => .ok value
  | .refused text => .error (.sql text)
  | .silent => .error (.timeout limit)

/-- Reports a statement, and sends it to the database unless the unit of work is closed. -/
def send (s : Surroundings σ) (statement : Statement) (request : σ → Reply α × σ) : Attempt σ α := do
  let work := (← get).work
  (note s (.sending work.dialect statement) : Act σ Unit)
  if work.isClosed then throw .closed
  let reply ← (ask request : Act σ (Reply α))
  ofReply work.timeout reply

/-- Runs a statement and returns the number of rows it touched. -/
def execute (s : Surroundings σ) (statement : Statement) : Attempt σ UInt64 := send s statement (s.execute statement)

/-- Runs statements in order up to the first that fails; the numbers of rows add up. -/
def executeAll (s : Surroundings σ) : List Statement → Attempt σ UInt64
  | [] => return 0
  | statement :: rest => do
    let rows ← execute s statement
    return rows + (← executeAll s rest)

/-- A row that can be read. -/
def readable (row : Row) : Outcome Row :=
  match row.fault? with
  | none => .ok row
  | some reason => .error (.sql reason)

/-- Runs a statement and returns all rows. -/
def fetchAll (s : Surroundings σ) (statement : Statement) : Attempt σ (List Row) := do
  let rows ← send s statement (s.fetch statement)
  (rows.mapM readable : Outcome (List Row))

/-- Runs a statement and returns its first row, if there is one. -/
def fetchFirst (s : Surroundings σ) (statement : Statement) : Attempt σ (Option Row) := do
  match ← send s statement (s.fetch statement) with
  | [] => return none
  | row :: _ => return some (← readable row)

/-- Remembers the message of a failed call, so that closing rolls back. A call after closing leaves no mark. -/
def recorded (attempt : Attempt σ α) : Act σ (Outcome α) := do
  let outcome ← attempt.run
  match outcome with
  | .ok _ | .error .closed => pure ()
  | .error failure => change fun work => { work with errors := work.errors ++ [failure.message] }
  return outcome

/-- Whether writes of a model are repeated in the second store. -/
def mirrors (s : Surroundings σ) (work : Work) (metadata : Metadata) : Bool :=
  work.options.mirrored && metadata.mirrored && s.store.isSome

/-- Queues a write that has succeeded, if it is to be repeated. -/
def enqueue (s : Surroundings σ) (metadata : Metadata) (write : StoreWrite) : Act σ Unit :=
  change fun work =>
    if mirrors s work metadata then { work with pending := work.pending ++ [⟨metadata, write⟩] } else work

/-- Most objects that one write takes. -/
def greatestBatch : Nat := 2000

/-- Accepts the size of a batch. -/
def checkBatch (operation : String) (size : Nat) : Outcome Unit :=
  if size = 0 then .error (.validation (.emptyBatch operation))
  else if greatestBatch < size then .error (.batchTooLarge size greatestBatch)
  else .ok ()

/-- The model that a condition is bound to. -/
def boundModel (s : Surroundings σ) (operation : String) (condition : Condition) : Outcome Metadata :=
  match condition.model with
  | none => .error (.validation (.unbound operation))
  | some typeName => s.registry.lookup typeName

/-- The description of a model that is read by a condition, which must not be bound to another one. -/
def modelFor (s : Surroundings σ) (model : Model α) (condition : Condition) : Outcome Metadata := do
  let metadata ← s.registry.lookup model.name
  match condition.model with
  | none => return metadata
  | some bound =>
    if bound = metadata.typeName then return metadata
    else throw (.validation (.boundElsewhere bound metadata.typeName))

end Work

end RecordMapper
