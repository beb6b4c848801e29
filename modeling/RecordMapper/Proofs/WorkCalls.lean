import RecordMapper.Work.Close
import RecordMapper.Work.Reads
import RecordMapper.Work.Writes

/-! Runs of a unit of work: calls in any order, in surroundings that answer as they like and keep a record of what
they were asked for. -/

namespace RecordMapper

/-- A request that can change something outside, with its answer. -/
inductive Exchange where
  | execute (statement : Statement) (reply : Reply UInt64)
  | fetch (statement : Statement) (reply : Reply (List Row))
  | commit (reply : Reply Unit)
  | rollback (reply : Reply Unit)
  | copy (queued : QueuedWrite) (answer : Outcome Unit)

namespace Exchange

def isStatement : Exchange → Bool
  | .execute .. | .fetch .. => true
  | _ => false

def isEnd : Exchange → Bool
  | .commit _ | .rollback _ => true
  | _ => false

def isCommitted : Exchange → Bool
  | .commit (.done ()) => true
  | _ => false

def copied? : Exchange → Option QueuedWrite
  | .copy queued _ => some queued
  | _ => none

end Exchange

/-- Answers a request and adds it to the record. -/
def recordedAs (exchange : α → Exchange) (request : σ → α × σ) (world : σ × List Exchange) : α × (σ × List Exchange) :=
  let (answer, state) := request world.1
  (answer, (state, world.2 ++ [exchange answer]))

def SecondStore.recording (store : SecondStore σ) : SecondStore (σ × List Exchange) where
  take queued := recordedAs (.copy queued) (store.take queued)

/-- The same surroundings with a record of what they were asked for. -/
def Surroundings.recording (s : Surroundings σ) : Surroundings (σ × List Exchange) where
  registry := s.registry
  execute statement := recordedAs (.execute statement) (s.execute statement)
  fetch statement := recordedAs (.fetch statement) (s.fetch statement)
  commit := recordedAs .commit s.commit
  rollback := recordedAs .rollback s.rollback
  release world := (s.release world.1, world.2)
  abandon world := (s.abandon world.1, world.2)
  reading world :=
    let (answer, state) := s.reading world.1
    (answer, (state, world.2))
  note event world := (s.note event world.1, world.2)
  store := s.store.map SecondStore.recording

/-- Surroundings that number statements and copies and answer each by its number. Transactions end well. -/
def Surroundings.numbering (registry : Registry) (reply : Nat → Reply UInt64) (taken : Nat → Outcome Unit) :
    Surroundings Nat where
  registry
  execute _ count := (reply count, count + 1)
  fetch _ count := (.done [], count + 1)
  commit count := (.done (), count)
  rollback count := (.done (), count)
  release := id
  abandon := id
  reading count := (0, count)
  note _ := id
  store := some ⟨fun _ count => (taken count, count + 1)⟩

namespace Work

inductive Call : Type 1 where
  | save {α : Type} (model : Model α) (objects : List α)
  | update {α : Type} (model : Model α) (objects : List α)
  | updateWhere (condition : Condition)
  | delete {α : Type} (model : Model α) (objects : List α)
  | deleteById {α : Type} (model : Model α) (keys : List Value)
  | deleteWhere (condition : Condition)
  | findById {α : Type} (model : Model α) (object : α)
  | findOne {α : Type} (model : Model α) (complex : Bool) (condition : Condition) (object : α)
  | findList {α : Type} (model : Model α) (complex : Bool) (condition : Condition)
  | count (condition : Condition)
  | exists? (condition : Condition)
  | executeRaw (text : String) (params : List Value)
  | createTable {α : Type} (model : Model α)
  | dropTable {α : Type} (model : Model α)
  | close

namespace Call

def isClose : Call → Bool
  | .close => true
  | _ => false

/-- Makes a call. Only whether it succeeded, or why it failed, is returned. -/
def perform (s : Surroundings σ) : Call → Act σ (Outcome Unit)
  | .save model objects => do return (← Work.save s model objects).1.map fun _ => ()
  | .update model objects => do return (← Work.update s model objects).map fun _ => ()
  | .updateWhere condition => do return (← Work.updateWhere s condition).map fun _ => ()
  | .delete model objects => do return (← Work.delete s model objects).map fun _ => ()
  | .deleteById model keys => do return (← Work.deleteById s model keys).map fun _ => ()
  | .deleteWhere condition => do return (← Work.deleteWhere s condition).map fun _ => ()
  | .findById model object => do return (← Work.findById s model object).1.map fun _ => ()
  | .findOne model complex condition object => do
    return (← Work.findOne s model complex condition object).1.map fun _ => ()
  | .findList model complex condition => do return (← Work.findList s model complex condition).1.map fun _ => ()
  | .count condition => do return (← Work.count s condition).1.map fun _ => ()
  | .exists? condition => do return (← Work.exists? s condition).map fun _ => ()
  | .executeRaw text params => do return (← Work.executeRaw s text params).map fun _ => ()
  | .createTable model => Work.createTable s model
  | .dropTable model => Work.dropTable s model
  | .close => do
    Work.close s
    return .ok ()

end Call

def run (s : Surroundings σ) : List Call → Act σ (List (Outcome Unit))
  | [] => return []
  | call :: rest => do
    let outcome ← call.perform s
    return outcome :: (← run s rest)

/-- The messages of failed calls, in order. -/
def messages (outcomes : List (Outcome Unit)) : List String :=
  outcomes.filterMap fun outcome => match outcome with
    | .ok _ => none
    | .error failure => some failure.message

def Succeeded (outcomes : List (Outcome Unit)) : Prop := ∀ outcome ∈ outcomes, outcome = .ok ()

def opened (dialect : Dialect) (options : WorkOptions) (timeout : Duration) (hold : Hold) : Work :=
  { dialect, options, timeout, hold := some hold }

end Work

end RecordMapper
