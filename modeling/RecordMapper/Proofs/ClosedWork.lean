import RecordMapper.Proofs.PagedReads
import RecordMapper.Proofs.WorkEnds
import RecordMapper.Proofs.WorkRefusals

/-! After closing. Every call fails without sending anything, because the unit of work is closed or because its
arguments are refused first. A list whose page is known to be empty is the one call that can still be answered. -/

namespace RecordMapper.Work

/-- Whether a list asks for a page beyond a total that is known: on a dialect that counts first, nothing is read. -/
def skipsRead (dialect : Dialect) (condition : Condition) : Bool :=
  dialect.countsFirst && condition.paging.plan?.any fun plan => condition.paging.total.any fun total => !plan.within total

def Call.skipsRead (dialect : Dialect) : Call → Bool
  | .findList _ _ condition => Work.skipsRead dialect condition
  | _ => false

theorem runs_ne_nil (size : Nat) {items : List α} (some : items ≠ []) : Statement.runs size items ≠ [] := by
  cases items with
  | nil => exact absurd rfl some
  | cons item rest => exact List.cons_ne_nil _ _

theorem mapM_ne_nil {step : α → Outcome β} {items : List α} {results : List β} (some : items ≠ [])
    (made : items.mapM step = .ok results) : results ≠ [] := by
  rintro rfl
  exact some (List.forall₂_nil_right_iff.mp (Outcome.mapM_eq_ok.mp made))

theorem map_singleton_ne_nil {made : Outcome Statement} {statements : List Statement}
    (mapped : made.map (fun statement => [statement]) = .ok statements) : statements ≠ [] := by
  cases made with
  | error failure => cases mapped
  | ok statement =>
    cases mapped
    exact List.cons_ne_nil _ _

theorem insertChunked_ne_nil {maxParams : Nat} {database : Option String} {metadata : Metadata} {records : List Record}
    {statements : List Statement} (made : Statement.insertChunked maxParams database metadata records = .ok statements) :
    statements ≠ [] := by
  unfold Statement.insertChunked at made
  split at made
  · exact map_singleton_ne_nil made
  next some => exact mapM_ne_nil (runs_ne_nil _ (by simpa using some)) made

theorem updateBatchChunked_ne_nil {maxParams : Nat} {database : Option String} {metadata : Metadata}
    {records : List Record} {statements : List Statement}
    (made : Statement.updateBatchChunked maxParams database metadata records = .ok statements) : statements ≠ [] := by
  unfold Statement.updateBatchChunked at made
  split at made
  · exact map_singleton_ne_nil made
  next some => exact mapM_ne_nil (runs_ne_nil _ (by simpa using some)) made

section

variable {dialect : Dialect}

theorem refuses_totalFor (s : Surroundings σ) (complex : Bool) (metadata : Metadata) {condition : Condition}
    (unknown : condition.paging.total = none) :
    Refuses dialect (totalFor s.recording complex metadata condition) Prod.fst := by
  unfold totalFor
  rw [unknown]
  apply Refuses.bind (fails_countRows s _ condition)
  · intro outcome failure failed
    cases failed
    exact Alike.pure rfl
  · intro outcome
    cases outcome <;> exact Appends.pure _

theorem appends_fetchObjects (s : Surroundings σ) (model : Model α) (metadata : Metadata) (statement : Statement) :
    Appends (fetchObjects s.recording model metadata statement).run :=
  Appends.of_yields fun _ => yields_fetchObjects s model metadata statement

theorem refuses_fetchPage (s : Surroundings σ) (model : Model α) (complex : Bool) (metadata : Metadata)
    {condition : Condition} (statement : Statement) {plan : PagePlan} (asked : condition.paging.plan? = some plan)
    (read : skipsRead dialect condition = false) :
    Refuses dialect (fetchPage s.recording model complex metadata condition statement plan) Prod.fst := by
  have page (condition : Condition) : Refuses dialect
      (do return (← (fetchObjects s.recording model metadata (statement.paginate plan)).run, condition)) Prod.fst :=
    (fails_fetchObjects s model metadata (statement.paginate plan)).map (·, condition) fun _ _ failed => failed
  apply refuses_get fun _ _ => rfl
  intro scene named
  rw [named]
  -- where the total is counted first, counting already fails; where it is known, the page within it does
  split
  next counts =>
    cases known : condition.paging.total with
    | none =>
      apply Refuses.bind (refuses_totalFor s complex metadata known)
      · intro result failure failed
        obtain ⟨outcome, condition⟩ := result
        cases failed
        exact Alike.pure rfl
      · intro result
        obtain ⟨outcome, condition⟩ := result
        cases outcome with
        | error failure => exact Appends.pure _
        | ok total =>
          dsimp only
          split
          · exact (appends_fetchObjects s model metadata _).map (·, condition)
          · exact Appends.pure _
    | some total =>
      have within : plan.within total = true := by simpa [skipsRead, counts, asked, known] using read
      have known : totalFor s.recording complex metadata condition = pure (.ok total, condition) := by
        unfold totalFor
        rw [known]
      rw [known, pure_bind]
      simp only [within, ↓reduceIte]
      exact page condition
  next => exact page condition

theorem refuses_fetchList (s : Surroundings σ) (model : Model α) (complex : Bool) (metadata : Metadata)
    {condition : Condition} (read : skipsRead dialect condition = false) :
    Refuses dialect (fetchList s.recording model complex metadata condition) Prod.fst := by
  apply refuses_get fun _ _ => rfl
  intro scene _
  have unclosed := unclosed_reading scene.work.options.database complex metadata condition
  cases made : reading scene.work.options.database complex metadata condition with
  | error failure =>
    rw [made] at unclosed
    exact fun _ _ _ _ => ⟨failure, rfl, .inr ⟨fun same => unclosed (by rw [same]), rfl⟩⟩
  | ok statement =>
    dsimp only
    split
    · exact (fails_fetchObjects s model metadata statement).map (·, condition) fun _ _ failed => failed
    next asked => exact refuses_fetchPage s model complex metadata statement asked read

theorem marked_reopened (hold : Hold) (outcome : Outcome α) (work : Work) :
    marked outcome { work with hold := some hold } = { marked outcome work with hold := some hold } := by
  unfold marked
  split <;> rfl

theorem refuses_recorded {attempt : Attempt (σ × List Exchange) α} (fails : Fails dialect attempt) :
    Refuses dialect (recorded attempt) id := by
  intro hold scene named closed
  obtain ⟨failure, failed, reached⟩ := fails hold scene named closed
  rw [recorded_apply, recorded_apply]
  refine ⟨failure, failed, ?_⟩
  rcases reached with ⟨blamed, sent⟩ | ⟨other, same⟩
  · exact .inl ⟨blamed, sent⟩
  · rw [same]
    refine .inr ⟨other, ?_⟩
    exact congrArg (fun work => ((attempt.run scene).1, { (attempt.run scene).2 with work := work }))
      (marked_reopened hold (attempt.run scene).1 (attempt.run scene).2.work)

theorem alike_recorded (failure : Failure) :
    Alike (recorded (throw failure : Attempt (σ × List Exchange) α)) fun outcome => outcome = .error failure := by
  intro hold scene
  rw [recorded_apply, recorded_apply]
  exact ⟨congrArg (fun work => (_, { reopened hold scene with work := work })) (marked_reopened hold _ scene.work), rfl⟩

theorem refuses_returning {attempt : Attempt (σ × List Exchange) α} {tail : Outcome α → Act (σ × List Exchange) (Outcome β)}
    (fails : Fails dialect attempt) (result : α → β)
    (maps : ∀ outcome, tail outcome = pure (outcome.map result)) : Refuses dialect (recorded attempt >>= tail) id := by
  obtain rfl : tail = fun outcome => pure (outcome.map result) := funext maps
  apply (refuses_recorded fails).map
  intro outcome failure failed
  cases failed
  rfl

/-- A call whose attempt fails once the unit of work is closed. -/
theorem refuses_call {attempt : Attempt (σ × List Exchange) α} (fails : Fails dialect attempt) (result : α → β) :
    Refuses dialect (do return (← recorded attempt).map result) id :=
  refuses_returning fails result fun _ => rfl

theorem fails_insertAll (s : Surroundings σ) (metadata : Metadata) (records : List Record) :
    Fails dialect (insertAll s.recording metadata records) := by
  apply fails_get fun _ _ => rfl
  intro scene _
  apply Fails.after (Passes.ofOutcome (Statement.unclosed_insertChunked _ _ metadata records))
  intro statements made
  apply Fails.bind (fails_executeAll s (insertChunked_ne_nil made))
  intro rows
  exact Appends.of_leaves fun closed => leaves_enqueue s metadata (.save records) rows

theorem appends_written (s : Surroundings σ) (operation : String) (metadata : Metadata) (write : StoreWrite)
    (rows : UInt64) :
    Appends (do
      (warnUntouched s.recording operation metadata rows : Act (σ × List Exchange) Unit)
      (enqueue s.recording metadata write : Act (σ × List Exchange) Unit)
      return rows : Attempt (σ × List Exchange) UInt64).run := by
  apply Appends.of_leaves
  intro closed
  apply Leaves.bind (Yields.ofAct (quietly_warnUntouched s operation metadata rows))
  exact fun _ _ => leaves_enqueue s metadata write rows

theorem fails_deleteKeys (s : Surroundings σ) (metadata : Metadata) (keys : List Value) :
    Fails dialect (deleteKeys s.recording metadata keys) := by
  apply fails_get fun _ _ => rfl
  intro scene _
  apply Fails.after (Passes.ofOutcome (Statement.unclosed_deleteByIds _ metadata keys))
  intro statement _
  exact Fails.bind (fails_execute s statement) (appends_written s "delete" metadata (.delete keys))

theorem passes_lookup (s : Surroundings σ) (typeName : String) :
    Passes (liftM (s.recording.registry.lookup typeName) : Attempt (σ × List Exchange) Metadata)
      fun metadata => s.registry.lookup typeName = .ok metadata :=
  Passes.ofOutcome (unclosed_lookup s.registry typeName)

theorem passes_keys (metadata : Metadata) (model : Model α) (objects : List α) :
    Passes (objects.mapM fun object => do
      let record ← metadata.encode model object
      (metadata.keyOf record : Outcome Value) : Attempt (σ × List Exchange) (List Value)) fun _ => True := by
  have key (object : α) : Passes (do
      let record ← (metadata.encode model object : Outcome Record)
      (metadata.keyOf record : Outcome Value) : Attempt (σ × List Exchange) Value) fun _ => True := by
    apply Passes.bind (Passes.ofOutcome (metadata.unclosed_encode model object))
    intro record _
    exact (Passes.ofOutcome (metadata.unclosed_keyOf record)).mono fun _ _ => trivial
  exact Passes.mapM key objects

theorem refuses_save (s : Surroundings σ) (model : Model α) (objects : List α) :
    Refuses dialect ((Call.save model objects).perform s.recording) id := by
  simp only [Call.perform, Work.save, bind_assoc, pure_bind]
  apply Refuses.after (indifferent_prepareSave s model objects)
  intro result unclosed
  apply refuses_call
  apply Fails.after (Passes.ofOutcome unclosed)
  exact fun found _ => fails_insertAll s found.1 found.2

theorem refuses_update (s : Surroundings σ) (model : Model α) (objects : List α) :
    Refuses dialect ((Call.update model objects).perform s.recording) id := by
  apply refuses_call
  apply Fails.after (Passes.ofOutcome (unclosed_checkBatch "update" objects.length))
  intro _ _
  apply Fails.after (passes_lookup s model.name)
  intro metadata _
  apply Fails.after (Passes.mapM (fun object => Passes.ofOutcome (metadata.unclosed_encode model object)) objects)
  intro records _
  apply fails_get fun _ _ => rfl
  intro scene _
  apply Fails.after (Passes.ofOutcome (Statement.unclosed_updateBatchChunked _ _ metadata records))
  intro statements made
  apply Fails.bind (fails_executeAll s (updateBatchChunked_ne_nil made))
  exact appends_written s "update" metadata (.update records)

theorem refuses_updateWhere (s : Surroundings σ) (condition : Condition) :
    Refuses dialect ((Call.updateWhere condition).perform s.recording) id := by
  apply refuses_call
  apply Fails.after (Passes.ofOutcome (unclosed_boundModel s.recording _ condition))
  intro metadata _
  apply fails_get fun _ _ => rfl
  intro scene _
  apply Fails.after (Passes.ofOutcome (Statement.unclosed_updateByCondition _ metadata condition))
  intro statement _
  exact Fails.bind (fails_execute s statement) (appends_written s _ metadata (.updateWhere condition))

theorem refuses_delete (s : Surroundings σ) (model : Model α) (objects : List α) :
    Refuses dialect ((Call.delete model objects).perform s.recording) id := by
  apply refuses_call
  apply Fails.after (Passes.ofOutcome (unclosed_checkBatch "delete" objects.length))
  intro _ _
  apply Fails.after (passes_lookup s model.name)
  intro metadata _
  apply Fails.after (passes_keys metadata model objects)
  exact fun keys _ => fails_deleteKeys s metadata keys

theorem refuses_deleteById (s : Surroundings σ) (model : Model α) (keys : List Value) :
    Refuses dialect ((Call.deleteById model keys).perform s.recording) id := by
  apply refuses_call
  apply Fails.after (Passes.ofOutcome (unclosed_checkBatch "delete by id" keys.length))
  intro _ _
  apply Fails.after (passes_lookup s model.name)
  exact fun metadata _ => fails_deleteKeys s metadata keys

theorem refuses_deleteWhere (s : Surroundings σ) (condition : Condition) :
    Refuses dialect ((Call.deleteWhere condition).perform s.recording) id := by
  apply refuses_call
  apply Fails.after (Passes.ofOutcome (unclosed_boundModel s.recording _ condition))
  intro metadata _
  apply fails_get fun _ _ => rfl
  intro scene _
  apply Fails.after (Passes.ofOutcome (Statement.unclosed_deleteByCondition _ metadata condition))
  intro statement _
  exact Fails.bind (fails_execute s statement) (appends_written s _ metadata (.deleteWhere condition))

theorem refuses_findById (s : Surroundings σ) (model : Model α) (object : α) :
    Refuses dialect ((Call.findById model object).perform s.recording) id := by
  simp only [Call.perform, Work.findById, bind_assoc, pure_bind, found_map]
  apply refuses_call
  apply Fails.after (passes_lookup s model.name)
  intro metadata _
  apply Fails.after (Passes.ofOutcome (metadata.unclosed_encode model object))
  intro record _
  apply Fails.after (Passes.ofOutcome (metadata.unclosed_keyOf record))
  intro key _
  split
  · apply Fails.after (Passes.throw (by simp))
    exact fun _ _ => fails_fetchOne s model false metadata _
  · exact fails_fetchOne s model false metadata _

theorem refuses_findOne (s : Surroundings σ) (model : Model α) (complex : Bool) (condition : Condition) (object : α) :
    Refuses dialect ((Call.findOne model complex condition object).perform s.recording) id := by
  simp only [Call.perform, Work.findOne, bind_assoc, pure_bind, found_map]
  apply refuses_call
  apply Fails.after (Passes.ofOutcome (unclosed_modelFor s.recording model condition))
  exact fun metadata _ => fails_fetchOne s model complex metadata condition

theorem refuses_findList (s : Surroundings σ) (model : Model α) (complex : Bool) {condition : Condition}
    (read : skipsRead dialect condition = false) :
    Refuses dialect ((Call.findList model complex condition).perform s.recording) id := by
  have unclosed := unclosed_modelFor s.recording model condition
  simp only [Call.perform, Work.findList]
  cases looked : modelFor s.recording model condition with
  | error failure =>
    rw [looked] at unclosed
    simp only [bind_assoc, pure_bind]
    exact refuses_call (fails_throw fun same => unclosed (by rw [same])) _
  | ok metadata =>
    simp only [bind_assoc, pure_bind]
    -- a list records what came of it afterwards, so the failure has to pass through the recording
    apply Refuses.bind (refuses_fetchList s model complex metadata read)
    · intro result failure failed
      obtain ⟨outcome, condition⟩ := result
      cases failed
      apply (alike_recorded failure).map
      rintro outcome rfl
      rfl
    · intro result scene
      refine ⟨[], ?_⟩
      rw [act_bind, recorded_apply, run_outcome]
      exact (List.append_nil _).symm

theorem refuses_count (s : Surroundings σ) (condition : Condition) :
    Refuses dialect ((Call.count condition).perform s.recording) id := by
  have counts : Fails dialect (do
      let metadata ← if condition.isComplex then pure none else some <$> boundModel s.recording "count" condition
      countRows s.recording metadata condition) := by
    split
    · exact fails_countRows s none condition
    · rw [map_eq_pure_bind, bind_assoc]
      apply Fails.after (Passes.ofOutcome (unclosed_boundModel s.recording _ condition))
      intro metadata _
      rw [pure_bind]
      exact fails_countRows s (some metadata) condition
  simp only [Call.perform, Work.count, bind_assoc]
  apply refuses_returning counts fun _ => ()
  intro outcome
  cases outcome <;> rfl

theorem refuses_exists (s : Surroundings σ) (condition : Condition) :
    Refuses dialect ((Call.exists? condition).perform s.recording) id := by
  apply refuses_call
  apply Fails.after (Passes.ofOutcome (unclosed_boundModel s.recording _ condition))
  intro metadata _
  apply fails_get fun _ _ => rfl
  intro scene _
  apply Fails.after (Passes.ofOutcome (Statement.unclosed_exists _ metadata condition))
  intro statement _
  apply Fails.bind (fails_fetchFirst s statement)
  exact fun row => Appends.pure _

theorem refuses_executeRaw (s : Surroundings σ) (text : String) (params : List Value) :
    Refuses dialect ((Call.executeRaw text params).perform s.recording) id :=
  refuses_call (fails_execute s _) _

theorem refuses_createTable (s : Surroundings σ) (model : Model α) :
    Refuses dialect ((Call.createTable model).perform s.recording) id := by
  apply refuses_recorded
  apply Fails.after (passes_lookup s model.name)
  intro metadata _
  apply fails_get fun _ _ => rfl
  intro scene _
  apply Fails.after (Passes.ofOutcome (Statement.unclosed_createTable _ metadata))
  intro statement _
  exact Fails.bind (fails_execute s statement) fun _ => Appends.pure _

theorem refuses_dropTable (s : Surroundings σ) (model : Model α) :
    Refuses dialect ((Call.dropTable model).perform s.recording) id := by
  apply refuses_recorded
  apply Fails.after (passes_lookup s model.name)
  intro metadata _
  apply fails_get fun _ _ => rfl
  intro scene _
  apply Fails.after (Passes.ofOutcome (Statement.unclosed_dropTable _ metadata))
  intro statement _
  exact Fails.bind (fails_execute s statement) fun _ => Appends.pure _

theorem refuses_perform (s : Surroundings σ) : ∀ {call : Call}, call.isClose = false → call.skipsRead dialect = false →
    Refuses dialect (call.perform s.recording) id
  | .save model objects, _, _ => refuses_save s model objects
  | .update model objects, _, _ => refuses_update s model objects
  | .updateWhere condition, _, _ => refuses_updateWhere s condition
  | .delete model objects, _, _ => refuses_delete s model objects
  | .deleteById model keys, _, _ => refuses_deleteById s model keys
  | .deleteWhere condition, _, _ => refuses_deleteWhere s condition
  | .findById model object, _, _ => refuses_findById s model object
  | .findOne model complex condition object, _, _ => refuses_findOne s model complex condition object
  | .findList model complex _, _, read => refuses_findList s model complex read
  | .count condition, _, _ => refuses_count s condition
  | .exists? condition, _, _ => refuses_exists s condition
  | .executeRaw text params, _, _ => refuses_executeRaw s text params
  | .createTable model, _, _ => refuses_createTable s model
  | .dropTable model, _, _ => refuses_dropTable s model

end

theorem isClosed_close (s : Surroundings σ) (scene : Scene (σ × List Exchange)) :
    (Call.close.perform s.recording scene).2.work.isClosed = true := by
  cases holds : scene.work.hold with
  | none =>
    have closed : scene.work.isClosed = true := by simp [isClosed, holds]
    rw [close_closed s.recording closed]
    exact closed
  | some hold =>
    obtain ⟨_, ends⟩ := close_open s holds
    rw [ends.work]
    rfl

theorem dialect_perform (s : Surroundings σ) (call : Call) (scene : Scene (σ × List Exchange)) :
    (call.perform s.recording scene).2.work.dialect = scene.work.dialect := by
  cases closes : call.isClose with
  | false =>
    obtain ⟨errors, pending, work⟩ := (steps_perform s closes scene rfl).work
    rw [work]
  | true =>
    obtain rfl : call = .close := by cases call <;> first | rfl | cases closes
    cases holds : scene.work.hold with
    | none => rw [close_closed s.recording (by simp [isClosed, holds])]
    | some hold =>
      obtain ⟨_, ends⟩ := close_open s holds
      rw [ends.work]
      rfl

theorem dialect_run (s : Surroundings σ) : ∀ (calls : List Call) (scene : Scene (σ × List Exchange)),
    (run s.recording calls scene).2.work.dialect = scene.work.dialect
  | [], _ => rfl
  | call :: calls, scene => by
    rw [run_cons, dialect_run s calls, dialect_perform]

/-- Once a unit of work has been closed, whatever is called after that, a call sends nothing and fails. It fails because
the unit of work is closed if an open one would now send a statement, and otherwise as an open one would. Left out are
only the lists whose page is known to be empty. -/
theorem closed_work_refuses (s : Surroundings σ) (dialect : Dialect) (options : WorkOptions) (timeout : Duration)
    (hold : Hold) (keys : KeySource) (world : σ) (before after : List Call) (call : Call) (other : call.isClose = false)
    (read : call.skipsRead dialect = false) :
    let start : Scene (σ × List Exchange) := ⟨opened dialect options timeout hold, keys, world, []⟩
    let whole := (run s.recording (before ++ .close :: after) start).2
    let answer := call.perform s.recording whole
    let alternative := call.perform s.recording (reopened hold whole)
    answer.2.world.2 = whole.world.2 ∧
    ∃ failure, answer.1 = .error failure ∧
      (failure = .closed ↔ Sent whole alternative.2) ∧ (failure ≠ .closed → alternative.1 = .error failure) := by
  intro start whole answer alternative
  have closed : whole.work.isClosed = true := by
    show (run s.recording (before ++ .close :: after) start).2.work.isClosed = true
    rw [run_append, run_cons]
    exact (run_closed s after (isClosed_close s _)).1
  have named : whole.work.dialect = dialect := dialect_run s (before ++ .close :: after) start
  obtain ⟨sent, record, _, none⟩ := (steps_perform s other whole rfl).sends
  have silent : answer.2.world.2 = whole.world.2 := by
    rw [show answer.2.world.2 = whole.world.2 ++ sent from record, none closed, List.append_nil]
  obtain ⟨failure, failed, reached⟩ := refuses_perform s other read hold whole named closed
  refine ⟨silent, failure, failed, ?_⟩
  rcases reached with ⟨blamed, sent⟩ | ⟨differs, same⟩
  · exact ⟨iff_of_true blamed sent, fun differs => absurd blamed differs⟩
  · -- the open unit of work does what the closed one did, and the closed one sent nothing
    have unsent : ¬ Sent whole alternative.2 := by
      rintro ⟨exchange, rest, added⟩
      have kept : alternative.2.world.2 = whole.world.2 := by
        rw [show alternative = _ from same]
        exact silent
      simp [kept] at added
    refine ⟨iff_of_false differs unsent, fun _ => ?_⟩
    rw [show alternative = _ from same]
    exact failed

/-- The first page of three tokens is not read after closing although their number is known. -/
theorem counted_page_refused :
    let call : Call := .findList token false { paging := { number := 1, size := 10, total := some 3 } }
    let start : Scene (Unit × List Exchange) := ⟨opened .mysql {} (.ofMilliseconds 1) .transaction, ⟨0, []⟩, (), []⟩
    let whole := (run tokens.recording [.close, .close] start).2
    call.isClose = false ∧ call.skipsRead .mysql = false ∧
      (call.perform tokens.recording whole).1 = .error .closed := by
  intro call start whole
  have other : call.isClose = false := rfl
  have read : call.skipsRead .mysql = false := by decide
  obtain ⟨_, failure, failed, blamed, _⟩ :=
    closed_work_refuses tokens .mysql {} (.ofMilliseconds 1) .transaction ⟨0, []⟩ () [] [.close] call other read
  have sent : Sent whole (call.perform tokens.recording (reopened .transaction whole)).2 :=
    ⟨_, [], by with_unfolding_all rfl⟩
  exact ⟨other, read, failed.trans (congrArg Except.error (blamed.mpr sent))⟩

/-- The second page of three tokens, ten on each page: once they have been counted, the list is answered even after
closing. -/
theorem counted_empty_page_answered :
    let condition : Condition := { model := some token.name, paging := { number := 2, size := 10 } }
    let counted := count tokens condition (readingTokens .mysql)
    let closed := (close tokens counted.2).2
    closed.work.isClosed = true ∧ (findList tokens token false counted.1.2 closed).1.1 = .ok [] :=
  ⟨rfl, rfl⟩

end RecordMapper.Work
