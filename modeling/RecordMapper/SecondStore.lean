import RecordMapper.Condition
import RecordMapper.Model

/-! Writes that are repeated in a second store after they have been committed, in order and one by one. A write
that fails there is reported and left; the others are still made. -/

namespace RecordMapper

/-- A write and the data it carried. -/
inductive StoreWrite where
  /-- Records as they were inserted, generated keys included. -/
  | save (records : List Record)
  | update (records : List Record)
  | delete (keys : List Value)
  | updateWhere (condition : Condition)
  | deleteWhere (condition : Condition)

/-- Which write it is. -/
inductive WriteKind where
  | save
  | update
  | delete
  | updateWhere
  | deleteWhere
  deriving DecidableEq

def WriteKind.title : WriteKind → String
  | .save => "Save"
  | .update => "Update"
  | .delete => "Delete"
  | .updateWhere => "UpdateByCnd"
  | .deleteWhere => "DeleteByCnd"

def WriteKind.all : List WriteKind := [.save, .update, .delete, .updateWhere, .deleteWhere]

def WriteKind.ofTitle? (title : String) : Option WriteKind := all.find? fun kind => kind.title = title

def StoreWrite.kind : StoreWrite → WriteKind
  | .save _ => .save
  | .update _ => .update
  | .delete _ => .delete
  | .updateWhere _ => .updateWhere
  | .deleteWhere _ => .deleteWhere

/-- A write to one model's table that waits to be repeated. -/
structure QueuedWrite where
  metadata : Metadata
  write : StoreWrite

/-- A second store that answers to every write, with state of its own. -/
structure SecondStore (σ : Type) where
  take : QueuedWrite → σ → Outcome Unit × σ

/-- How repeating the queued writes went. -/
structure ReplayReport where
  applied : Nat := 0
  /-- The writes that failed, in order, with the failures. -/
  failures : List (QueuedWrite × Failure) := []

def ReplayReport.failed (report : ReplayReport) : Nat := report.failures.length

/-- Hands every write to the store, in order. -/
def SecondStore.replay (store : SecondStore σ) : List QueuedWrite → σ → ReplayReport × σ
  | [], state => ({}, state)
  | queued :: rest, state =>
    let (answer, state) := store.take queued state
    let (report, state) := store.replay rest state
    match answer with
    | .ok () => ({ report with applied := report.applied + 1 }, state)
    | .error failure => ({ report with failures := (queued, failure) :: report.failures }, state)

end RecordMapper
