import RecordMapper.Work.Basic

/-! The end of a unit of work. It is resolved once: committed if no call has failed, otherwise rolled back. The
queued writes are repeated only after everything has gone well. -/

namespace RecordMapper.Work

/-- Ends a transaction and tells whether it was committed. -/
def resolve (s : Surroundings σ) (work : Work) : Act σ Bool := do
  if work.errors.isEmpty then
    let reply ← ask s.commit
    match ofReply work.timeout reply with
    | .ok () => return true
    | .error failure =>
      note s (.commitFailed failure)
      return false
  else
    note s (.rollingBack work.errors.length)
    let reply ← ask s.rollback
    match ofReply work.timeout reply with
    | .ok () => return false
    | .error failure =>
      note s (.rollbackFailed failure)
      return false

/-- Repeats writes in the second store, if there are any. -/
def replay (s : Surroundings σ) (writes : List QueuedWrite) : Act σ Unit := do
  match s.store with
  | none => return
  | some store =>
    if writes.isEmpty then return
    let report ← ask (store.replay writes)
    report.events.forM (note s)

/-- Closes a unit of work. Only the first call does anything. -/
def close (s : Surroundings σ) : Act σ Unit := do
  let work := (← get).work
  match work.hold with
  | none => return
  | some hold =>
    change fun work => { work with hold := none, pending := [] }
    let committed ← match hold with
      | .connection => do
        tell s.release
        pure work.errors.isEmpty
      | .transaction => resolve s work
    if committed then replay s work.pending

/-- Gives a unit of work up. One that was not closed is reported, and what it did in a transaction is undone. -/
def abandon (s : Surroundings σ) : Act σ Unit := do
  let work := (← get).work
  if !work.isClosed then
    note s (.abandoned work.isTransactional work.pending.length)
    tell s.abandon

end RecordMapper.Work
