import RecordMapper.Proofs.WorkEnds

/-! Repeating writes loses none and invents none: the queue has one write for each mirrored call that has succeeded,
and closing hands all of them to the second store, or none. -/

namespace RecordMapper.Work

theorem repeated_eq_nil {s : Surroundings σ} (missing : s.store = none) (options : WorkOptions) :
    ∀ (calls : List Call) (outcomes : List (Outcome Unit)), repeated s options calls outcomes = []
  | [], _ => rfl
  | call :: calls, [] => rfl
  | call :: calls, .ok () :: outcomes => by
    have other : call.mirrored s options = false := by simp [Call.mirrored, missing]
    simp [repeated, other, repeated_eq_nil missing options calls outcomes]
  | call :: calls, .error _ :: outcomes => repeated_eq_nil missing options calls outcomes

theorem filterMap_copied {statements ends copies : List Exchange}
    (sent : ∀ exchange ∈ statements, exchange.isStatement = true) (resolved : ∀ ending ∈ ends, ending.isEnd = true)
    {writes : List QueuedWrite} (handed : copies.map Exchange.copied? = writes.map some) :
    (statements ++ (ends ++ copies)).filterMap Exchange.copied? = writes := by
  have before : statements.filterMap Exchange.copied? = [] :=
    List.filterMap_eq_nil_iff.mpr fun exchange member => Exchange.copied_of_isStatement (sent exchange member)
  have middle : ends.filterMap Exchange.copied? = [] :=
    List.filterMap_eq_nil_iff.mpr fun exchange member => Exchange.copied_of_isEnd (resolved exchange member)
  have after : copies.filterMap Exchange.copied? = (copies.map Exchange.copied?).filterMap id := by
    rw [List.filterMap_map]
    rfl
  rw [List.filterMap_append, List.filterMap_append, before, middle, after, handed, List.filterMap_map]
  simp

theorem committed_of_record {statements ends copies : List Exchange}
    (sent : ∀ exchange ∈ statements, exchange.isStatement = true) (resolved : ∀ ending ∈ ends, ending.isEnd = true)
    (copied : ∀ exchange ∈ copies, exchange.copied?.isSome = true) :
    (∃ exchange ∈ statements ++ (ends ++ copies), exchange.isCommitted = true) ↔
      ends.any Exchange.isCommitted = true := by
  rw [List.any_eq_true]
  constructor
  · rintro ⟨exchange, member, committed⟩
    have kept := List.mem_filter.mpr ⟨member, Exchange.isEnd_of_isCommitted committed⟩
    rw [filter_isEnd sent resolved copied] at kept
    exact ⟨exchange, kept, committed⟩
  · rintro ⟨exchange, member, committed⟩
    exact ⟨exchange, by simp [member], committed⟩

/-- Until the first close, the queue has one write for each mirrored write call that has succeeded, in the order of the
calls. That close hands all of the queue to the second store, each write once, in order and whatever the store answers,
if no call has failed and a transaction was committed. Otherwise nothing is ever handed over. -/
theorem queue_repeated_once (s : Surroundings σ) (dialect : Dialect) (options : WorkOptions) (timeout : Duration)
    (hold : Hold) (keys : KeySource) (world : σ) (before after : List Call)
    (others : ∀ call ∈ before, call.isClose = false) :
    let start : Scene (σ × List Exchange) := ⟨opened dialect options timeout hold, keys, world, []⟩
    let worked := run s.recording before start
    let closed := Call.close.perform s.recording worked.2
    let whole := run s.recording (before ++ .close :: after) start
    let clean := Succeeded worked.1 ∧
      (hold = .transaction → ∃ exchange ∈ closed.2.world.2, exchange.isCommitted = true)
    List.Forall₂ (Call.Queues s.registry) (repeated s options before worked.1) worked.2.work.pending ∧
    worked.2.world.2.filterMap Exchange.copied? = [] ∧
    (clean → closed.2.world.2.filterMap Exchange.copied? = worked.2.work.pending) ∧
    (¬clean → closed.2.world.2.filterMap Exchange.copied? = []) ∧
    whole.2.world.2 = closed.2.world.2 ∧
    closed.1 = .ok () ∧
    closed.2.work.errors = worked.2.work.errors ∧
    ∀ store ∈ s.recording.store, ∀ state,
      let report := (store.replay worked.2.work.pending state).1
      report.applied + report.failed = worked.2.work.pending.length := by
  intro start worked closed whole clean
  have holds : start.work.hold = some hold := rfl
  obtain ⟨ran, ok, ends, still, silent⟩ := run_through s holds others after
  have errors : worked.2.work.errors = messages worked.1 := ran.errors
  obtain ⟨queued, added, queues⟩ := ran.pending
  obtain rfl : worked.2.work.pending = queued := added
  obtain ⟨sent, recorded, statements, _⟩ := ran.sends
  obtain rfl : worked.2.world.2 = sent := recorded
  obtain ⟨resolutions, copies, record, resolved, handed⟩ := ends.record
  have committed := committed_of_record statements resolved.isEnd (copied_of_handed handed)
  have same : clean ↔ worked.2.work.errors = [] ∧ (hold = .transaction → resolutions.any Exchange.isCommitted = true) := by
    show (Succeeded worked.1 ∧ (hold = .transaction → ∃ exchange ∈ closed.2.world.2, exchange.isCommitted = true)) ↔ _
    rw [errors, messages_eq_nil, record, committed]
  have all : clean → copies.map Exchange.copied? = worked.2.work.pending.map some := by
    intro holds
    cases attached : s.store with
    | some store => exact handed.trans (if_pos ⟨same.mp holds, by simp [attached]⟩)
    | none =>
      -- Without a store no call is mirrored, so the queue is empty.
      rw [repeated_eq_nil attached] at queues
      have empty : worked.2.work.pending = [] := List.forall₂_nil_left_iff.mp queues
      simpa [attached, empty] using handed
  have none : ¬clean → copies.map Exchange.copied? = List.map some ([] : List QueuedWrite) := by
    intro fails
    rw [handed, if_neg fun both => fails (same.mpr both.1)]
    rfl
  refine ⟨queues, List.filterMap_eq_nil_iff.mpr fun exchange member => Exchange.copied_of_isStatement (statements exchange member),
    fun holds => ?_, fun fails => ?_, silent, ok, ?_, fun store _ state => store.replay_counts _ state⟩
  · rw [record]
    exact filterMap_copied statements resolved.isEnd (all holds)
  · rw [record]
    exact filterMap_copied statements resolved.isEnd (none fails)
  · rw [ends.work]
    rfl

def mirroredItem : Metadata := ⟨"Item", "items", [], "id", .int, true, []⟩

def itemWithKey (key : Int64) : Condition :=
  { model := some "Item", predicates := [.compare "id" (.versus .eq (.int key))] }

def twoDeletions : List Call := [.deleteWhere (itemWithKey 1), .executeRaw "VACUUM" [], .deleteWhere (itemWithKey 2)]

def refusingOnce : Surroundings Nat :=
  .numbering ⟨[mirroredItem]⟩ (fun _ => .done 1) fun count => if count = 3 then .error (.sql "down") else .ok ()

/-- Both deletions are committed and handed over, though the second store refuses the first of them. -/
theorem two_deletions_repeated :
    let start : Scene (Nat × List Exchange) :=
      ⟨opened .sqlite { mirrored := true } (.ofMilliseconds 1) .transaction, ⟨0, []⟩, 0, []⟩
    let worked := run refusingOnce.recording twoDeletions start
    let closed := Call.close.perform refusingOnce.recording worked.2
    (∀ call ∈ twoDeletions, call.isClose = false) ∧
    closed.2.world.2.filterMap Exchange.copied? =
      [⟨mirroredItem, .deleteWhere (itemWithKey 1)⟩, ⟨mirroredItem, .deleteWhere (itemWithKey 2)⟩] := by
  intro start worked closed
  have others : ∀ call ∈ twoDeletions, call.isClose = false := by simp [twoDeletions, Call.isClose]
  have outcomes : worked.1 = [.ok (), .ok (), .ok ()] := rfl
  have succeeded : Succeeded worked.1 := by simp [outcomes, Succeeded]
  have record : ∃ first second third copies,
      closed.2.world.2 = first :: second :: third :: .commit (.done ()) :: copies := ⟨_, _, _, _, rfl⟩
  have committed : ∃ exchange ∈ closed.2.world.2, exchange.isCommitted = true := by
    obtain ⟨_, _, _, _, same⟩ := record
    exact ⟨.commit (.done ()), by simp [same], rfl⟩
  have pending : worked.2.work.pending =
      [⟨mirroredItem, .deleteWhere (itemWithKey 1)⟩, ⟨mirroredItem, .deleteWhere (itemWithKey 2)⟩] := rfl
  obtain ⟨_, _, all, _⟩ := queue_repeated_once refusingOnce .sqlite { mirrored := true } (.ofMilliseconds 1) .transaction
    ⟨0, []⟩ 0 twoDeletions [] others
  exact ⟨others, (all ⟨succeeded, fun _ => committed⟩).trans pending⟩

end RecordMapper.Work
