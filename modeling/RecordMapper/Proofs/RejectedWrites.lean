import RecordMapper.Proofs.ClosedWork
import RecordMapper.Proofs.StoredObjects

/-! Writes that fail. One that is rejected has sent nothing, and of several statements none follows one that was not
carried out. Either way nothing is queued. -/

namespace RecordMapper

namespace Exchange

def isDone : Exchange → Bool
  | .execute _ (.done _) | .fetch _ (.done _) | .commit (.done _) | .rollback (.done _) | .copy _ (.ok _) => true
  | _ => false

end Exchange

namespace Work

/-- What lies behind an attempt. After a failure the unit of work is as before, nothing was sent if the failure is one
of validation, and otherwise only the last request can have gone wrong. -/
def Stops (before after : Scene (σ × List Exchange)) : Outcome α → Prop
  | .ok _ => ∃ sent, after.world.2 = before.world.2 ++ sent ∧ ∀ exchange ∈ sent, exchange.isDone
  | .error failure =>
    after.work = before.work ∧
    ∃ sent, after.world.2 = before.world.2 ++ sent ∧ (failure.isValidation → sent = []) ∧
      ∀ exchange ∈ sent.dropLast, exchange.isDone

def Careful (attempt : Attempt (σ × List Exchange) α) : Prop :=
  ∀ scene, Stops scene (attempt.run scene).2 (attempt.run scene).1

/-- An attempt that is not one to validate anything. -/
def Firm (attempt : Attempt (σ × List Exchange) α) : Prop :=
  ∀ scene failure, (attempt.run scene).1 = .error failure → failure.isValidation = false

theorem Stops.of_silent {before after : Scene (σ × List Exchange)} (work : after.work = before.work)
    (record : after.world.2 = before.world.2) (outcome : Outcome α) : Stops before after outcome := by
  have unsent : after.world.2 = before.world.2 ++ [] := by rw [record, List.append_nil]
  cases outcome with
  | ok value => exact ⟨[], unsent, by simp⟩
  | error failure => exact ⟨work, [], unsent, fun _ => rfl, by simp⟩

theorem Stops.from {before middle after : Scene (σ × List Exchange)} {outcome : Outcome α}
    (work : middle.work = before.work) (record : middle.world.2 = before.world.2)
    (stops : Stops middle after outcome) : Stops before after outcome := by
  cases outcome with
  | ok value =>
    obtain ⟨sent, added, done⟩ := stops
    exact ⟨sent, by rw [added, record], done⟩
  | error failure =>
    obtain ⟨kept, sent, added, rejected, done⟩ := stops
    exact ⟨kept.trans work, sent, by rw [added, record], rejected, done⟩

theorem Firm.of_act (act : Act (σ × List Exchange) α) : Firm (liftM act : Attempt (σ × List Exchange) α) := by
  intro scene failure failed
  cases failed

theorem Firm.pure (value : α) : Firm (Pure.pure value : Attempt (σ × List Exchange) α) := by
  intro scene failure failed
  cases failed

theorem Firm.bind {attempt : Attempt (σ × List Exchange) α} {next : α → Attempt (σ × List Exchange) β}
    (first : Firm attempt) (rest : ∀ value, Firm (next value)) : Firm (attempt >>= next) := by
  intro scene failure failed
  have firm := first scene
  rw [run_bind] at failed
  generalize attempt.run scene = reached at firm failed
  obtain ⟨outcome, later⟩ := reached
  cases outcome with
  | ok value => exact rest value later failure failed
  | error failure =>
    cases failed
    exact firm failure rfl

theorem Careful.after {attempt : Attempt (σ × List Exchange) α} {next : α → Attempt (σ × List Exchange) β}
    {middle : α → Prop} (first : Passes attempt middle) (rest : ∀ value, Careful (next value)) :
    Careful (attempt >>= next) := by
  intro scene
  obtain ⟨_, work, record, _⟩ := first .connection scene
  rw [run_bind]
  generalize attempt.run scene = reached at work record ⊢
  obtain ⟨outcome, later⟩ := reached
  cases outcome with
  | ok value => exact .from work record (rest value later)
  | error failure => exact .of_silent work record _

theorem careful_get {next : Scene (σ × List Exchange) → Attempt (σ × List Exchange) α}
    (each : ∀ scene, Careful (next scene)) : Careful (get >>= next) :=
  fun scene => each scene scene

/-- Once something may have been sent, nothing is validated any more. -/
theorem Careful.bind {attempt : Attempt (σ × List Exchange) α} {next : α → Attempt (σ × List Exchange) β}
    (quiet : ∀ closed, Yields closed attempt fun _ => True) (first : Careful attempt)
    (rest : ∀ value, Careful (next value)) (firm : ∀ value, Firm (next value)) : Careful (attempt >>= next) := by
  intro scene
  have kept := (quiet scene.work.isClosed scene rfl).1.work
  have stops := first scene
  rw [run_bind]
  generalize attempt.run scene = reached at kept stops ⊢
  obtain ⟨outcome, later⟩ := reached
  cases outcome with
  | error failure => exact stops
  | ok value =>
    obtain ⟨sent, added, done⟩ := stops
    have others := rest value later
    have unvalidated := firm value later
    dsimp only at kept added ⊢
    generalize (next value).run later = ended at others unvalidated ⊢
    obtain ⟨outcome, after⟩ := ended
    cases outcome with
    | ok result =>
      obtain ⟨more, appended, last⟩ := others
      refine ⟨sent ++ more, by rw [appended, added, List.append_assoc], fun exchange member => ?_⟩
      rcases List.mem_append.mp member with early | late
      · exact done exchange early
      · exact last exchange late
    | error failure =>
      obtain ⟨same, more, appended, -, last⟩ := others
      refine ⟨same.trans kept, sent ++ more, by rw [appended, added, List.append_assoc], fun rejected => ?_, ?_⟩
      · rw [unvalidated failure rfl] at rejected
        cases rejected
      · intro exchange member
        -- the last of all is the last of the rest, or one of the first where the rest has sent nothing
        cases more with
        | nil =>
          rw [List.append_nil] at member
          exact done exchange (List.dropLast_subset sent member)
        | cons head tail =>
          rw [List.dropLast_append_of_ne_nil (List.cons_ne_nil head tail)] at member
          rcases List.mem_append.mp member with early | late
          · exact done exchange early
          · exact last exchange late

theorem ofReply_failed {limit : Duration} {reply : Reply α} {failure : Failure}
    (failed : ofReply limit reply = .error failure) : failure.isValidation = false := by
  cases reply with
  | done value => cases failed
  | refused text =>
    cases failed
    rfl
  | silent =>
    cases failed
    rfl

theorem firm_send (s : Surroundings σ) (statement : Statement)
    (request : σ × List Exchange → Reply α × (σ × List Exchange)) : Firm (send s.recording statement request) := by
  intro scene failure failed
  cases closed : scene.work.isClosed with
  | true =>
    rw [run_send_closed s.recording closed] at failed
    cases failed
    rfl
  | false =>
    rw [run_send s.recording closed] at failed
    exact ofReply_failed failed

theorem firm_executeAll (s : Surroundings σ) (statements : List Statement) :
    Firm (executeAll s.recording statements) := by
  induction statements with
  | nil => exact Firm.pure _
  | cons statement rest ih =>
    apply Firm.bind (firm_send s statement _)
    intro rows
    exact Firm.bind ih fun more => Firm.pure _

theorem careful_pure (value : α) : Careful (Pure.pure value : Attempt (σ × List Exchange) α) :=
  fun _ => Stops.of_silent rfl rfl (.ok value)

theorem careful_execute (s : Surroundings σ) (statement : Statement) : Careful (execute s.recording statement) := by
  intro scene
  unfold execute
  cases closed : scene.work.isClosed with
  | true =>
    rw [run_send_closed s.recording closed]
    exact Stops.of_silent rfl rfl (.error .closed : Outcome UInt64)
  | false =>
    rw [run_send s.recording closed]
    have recorded (world : σ × List Exchange) :
        (s.recording.execute statement world).2.2 =
          world.2 ++ [.execute statement (s.recording.execute statement world).1] := rfl
    have added := recorded (s.recording.note (.sending scene.work.dialect statement) scene.world)
    generalize s.recording.execute statement _ = reached at added ⊢
    obtain ⟨reply, later⟩ := reached
    cases reply with
    | done rows => exact ⟨_, added, by simp [Exchange.isDone]⟩
    | refused text => exact ⟨rfl, _, added, by simp [Failure.isValidation], by simp⟩
    | silent => exact ⟨rfl, _, added, by simp [Failure.isValidation], by simp⟩

theorem careful_executeAll (s : Surroundings σ) (statements : List Statement) :
    Careful (executeAll s.recording statements) := by
  induction statements with
  | nil => exact careful_pure _
  | cons statement rest ih =>
    apply Careful.bind (fun closed => yields_execute s statement) (careful_execute s statement)
    · intro rows
      exact Careful.bind (fun closed => yields_executeAll s rest) ih (fun more => careful_pure _) fun more => Firm.pure _
    · intro rows
      exact Firm.bind (firm_executeAll s rest) fun more => Firm.pure _

theorem careful_enqueue (s : Surroundings σ) (metadata : Metadata) (write : StoreWrite) (rows : UInt64) :
    Careful (do
      (enqueue s.recording metadata write : Act (σ × List Exchange) Unit)
      return rows : Attempt (σ × List Exchange) UInt64) :=
  fun _ => ⟨[], (List.append_nil _).symm, by simp⟩

theorem careful_written (s : Surroundings σ) (operation : String) {attempt : Attempt (σ × List Exchange) UInt64}
    (quiet : ∀ closed, Yields closed attempt fun _ => True) (careful : Careful attempt) (metadata : Metadata)
    (write : StoreWrite) :
    Careful (do
      let rows ← attempt
      (warnUntouched s.recording operation metadata rows : Act (σ × List Exchange) Unit)
      (enqueue s.recording metadata write : Act (σ × List Exchange) Unit)
      return rows : Attempt (σ × List Exchange) UInt64) := by
  have warned (rows : UInt64) :
      Careful (warnUntouched s.recording operation metadata rows : Attempt (σ × List Exchange) Unit) := by
    unfold warnUntouched
    split
    · exact fun _ => ⟨[], (List.append_nil _).symm, by simp⟩
    · exact careful_pure _
  apply Careful.bind quiet careful
  · intro rows
    apply Careful.bind (fun closed => .ofAct (quietly_warnUntouched s operation metadata rows)) (warned rows)
    · exact fun _ => careful_enqueue s metadata write rows
    · exact fun _ => Firm.bind (Firm.of_act _) fun _ => Firm.pure _
  · exact fun rows => Firm.bind (Firm.of_act _) fun _ => Firm.bind (Firm.of_act _) fun _ => Firm.pure _

/-- What a write that fails leaves alone. -/
structure Spares (before after : Scene (σ × List Exchange)) (outcome : Outcome α) : Prop where
  /-- A rejected one has sent nothing and is remembered by its message only. -/
  rejected : ∀ failure, outcome = .error failure → failure.isValidation →
    after.world.2 = before.world.2 ∧
    after.work = { before.work with errors := before.work.errors ++ [failure.message] }
  /-- After a statement that was not carried out none is sent, and nothing is queued. -/
  stopped : ∃ sent, after.world.2 = before.world.2 ++ sent ∧
    ∀ early exchange late, sent = early ++ exchange :: late → exchange.isDone = false →
      late = [] ∧ after.work.pending = before.work.pending ∧
      ∃ failure, outcome = .error failure ∧ failure.isValidation = false

theorem spares_recorded {attempt : Attempt (σ × List Exchange) α} (careful : Careful attempt)
    (scene : Scene (σ × List Exchange)) :
    Spares scene (recorded attempt scene).2 (recorded attempt scene).1 := by
  have stops := careful scene
  rw [recorded_apply]
  generalize attempt.run scene = reached at stops ⊢
  obtain ⟨outcome, later⟩ := reached
  cases outcome with
  | ok value =>
    obtain ⟨sent, added, done⟩ := stops
    refine ⟨nofun, sent, added, fun early exchange late same undone => ?_⟩
    rw [done exchange (by simp [same])] at undone
    cases undone
  | error failure =>
    obtain ⟨kept, sent, added, unsent, done⟩ := stops
    obtain ⟨errors, settings⟩ := marked_settings (.error failure : Outcome α) scene.work
    dsimp only at kept added
    constructor
    · rintro _ ⟨⟩ rejected
      have other : failure ≠ .closed := by
        rintro rfl
        cases rejected
      rw [unsent rejected, List.append_nil] at added
      exact ⟨added, by rw [kept, marked_error other]⟩
    · refine ⟨sent, added, ?_⟩
      rintro early exchange late rfl undone
      have last : late = [] := by
        by_contra more
        have member : exchange ∈ (early ++ exchange :: late).dropLast := by
          rw [List.dropLast_append_cons, List.dropLast_cons_of_ne_nil more]
          simp
        rw [done exchange member] at undone
        cases undone
      refine ⟨last, by rw [kept, settings], failure, rfl, ?_⟩
      cases rejected : failure.isValidation with
      | false => rfl
      | true => simpa using unsent rejected

theorem Spares.map {before after : Scene (σ × List Exchange)} {outcome : Outcome α}
    (spares : Spares before after outcome) (result : α → β) : Spares before after (outcome.map result) := by
  have same (failure : Failure) : outcome.map result = .error failure ↔ outcome = .error failure := by
    cases outcome <;> simp [Except.map]
  refine ⟨fun failure failed => spares.rejected failure ((same failure).mp failed), ?_⟩
  simpa only [same] using spares.stopped

theorem Spares.from {before middle after : Scene (σ × List Exchange)} {outcome : Outcome α}
    (work : middle.work = before.work) (record : middle.world.2 = before.world.2)
    (spares : Spares middle after outcome) : Spares before after outcome := by
  obtain ⟨rejected, stopped⟩ := spares
  rw [work, record] at rejected stopped
  exact ⟨rejected, stopped⟩

theorem careful_insertAll (s : Surroundings σ) (metadata : Metadata) (records : List Record) :
    Careful (insertAll s.recording metadata records) := by
  apply careful_get
  intro scene
  apply Careful.after (Passes.ofOutcome (Statement.unclosed_insertChunked _ _ metadata records))
  intro statements
  apply Careful.bind (fun closed => yields_executeAll s statements) (careful_executeAll s statements)
  · exact fun rows => careful_enqueue s metadata (.save records) rows
  · exact fun rows => Firm.bind (Firm.of_act _) fun _ => Firm.pure _

theorem careful_deleteKeys (s : Surroundings σ) (metadata : Metadata) (keys : List Value) :
    Careful (deleteKeys s.recording metadata keys) := by
  apply careful_get
  intro scene
  apply Careful.after (Passes.ofOutcome (Statement.unclosed_deleteByIds _ metadata keys))
  intro statement
  exact careful_written s _ (fun closed => yields_execute s statement) (careful_execute s statement) metadata _

theorem spares_save (s : Surroundings σ) (model : Model α) (objects : List α) (scene : Scene (σ × List Exchange)) :
    Spares scene ((Call.save model objects).perform s.recording scene).2
      ((Call.save model objects).perform s.recording scene).1 := by
  obtain ⟨_, work, record, unclosed⟩ := indifferent_prepareSave s model objects .connection scene
  simp only [Call.perform, Work.save, bind_assoc, pure_bind]
  rw [act_bind]
  generalize prepareSave s.recording model objects scene = prepared at work record unclosed ⊢
  obtain ⟨result, later⟩ := prepared
  apply Spares.from work record
  apply Spares.map
  apply spares_recorded
  apply Careful.after (Passes.ofOutcome unclosed)
  exact fun found => careful_insertAll s found.1 found.2

theorem spares_update (s : Surroundings σ) (model : Model α) (objects : List α) (scene : Scene (σ × List Exchange)) :
    Spares scene ((Call.update model objects).perform s.recording scene).2
      ((Call.update model objects).perform s.recording scene).1 := by
  apply Spares.map
  apply spares_recorded
  apply Careful.after (Passes.ofOutcome (unclosed_checkBatch "update" objects.length))
  intro _
  apply Careful.after (passes_lookup s model.name)
  intro metadata
  apply Careful.after (Passes.mapM (fun object => Passes.ofOutcome (metadata.unclosed_encode model object)) objects)
  intro records
  apply careful_get
  intro scene
  apply Careful.after (Passes.ofOutcome (Statement.unclosed_updateBatchChunked _ _ metadata records))
  intro statements
  exact careful_written s _ (fun closed => yields_executeAll s statements) (careful_executeAll s statements) metadata _

theorem spares_updateWhere (s : Surroundings σ) (condition : Condition) (scene : Scene (σ × List Exchange)) :
    Spares scene ((Call.updateWhere condition).perform s.recording scene).2
      ((Call.updateWhere condition).perform s.recording scene).1 := by
  apply Spares.map
  apply spares_recorded
  apply Careful.after (Passes.ofOutcome (unclosed_boundModel s.recording _ condition))
  intro metadata
  apply careful_get
  intro scene
  apply Careful.after (Passes.ofOutcome (Statement.unclosed_updateByCondition _ metadata condition))
  intro statement
  exact careful_written s _ (fun closed => yields_execute s statement) (careful_execute s statement) metadata _

theorem spares_delete (s : Surroundings σ) (model : Model α) (objects : List α) (scene : Scene (σ × List Exchange)) :
    Spares scene ((Call.delete model objects).perform s.recording scene).2
      ((Call.delete model objects).perform s.recording scene).1 := by
  apply Spares.map
  apply spares_recorded
  apply Careful.after (Passes.ofOutcome (unclosed_checkBatch "delete" objects.length))
  intro _
  apply Careful.after (passes_lookup s model.name)
  intro metadata
  apply Careful.after (passes_keys metadata model objects)
  exact fun keys => careful_deleteKeys s metadata keys

theorem spares_deleteById (s : Surroundings σ) (model : Model α) (keys : List Value)
    (scene : Scene (σ × List Exchange)) :
    Spares scene ((Call.deleteById model keys).perform s.recording scene).2
      ((Call.deleteById model keys).perform s.recording scene).1 := by
  apply Spares.map
  apply spares_recorded
  apply Careful.after (Passes.ofOutcome (unclosed_checkBatch "delete by id" keys.length))
  intro _
  apply Careful.after (passes_lookup s model.name)
  exact fun metadata => careful_deleteKeys s metadata keys

theorem spares_deleteWhere (s : Surroundings σ) (condition : Condition) (scene : Scene (σ × List Exchange)) :
    Spares scene ((Call.deleteWhere condition).perform s.recording scene).2
      ((Call.deleteWhere condition).perform s.recording scene).1 := by
  apply Spares.map
  apply spares_recorded
  apply Careful.after (Passes.ofOutcome (unclosed_boundModel s.recording _ condition))
  intro metadata
  apply careful_get
  intro scene
  apply Careful.after (Passes.ofOutcome (Statement.unclosed_deleteByCondition _ metadata condition))
  intro statement
  exact careful_written s _ (fun closed => yields_execute s statement) (careful_execute s statement) metadata _

def Call.isWrite : Call → Bool
  | .save .. | .update .. | .updateWhere _ | .delete .. | .deleteById .. | .deleteWhere _ => true
  | _ => false

/-- A write that fails leaves alone what it can, whatever the unit of work has been through. Rejected, it has sent
nothing, however many statements it would have needed; and where one of them is not carried out, it is the last. -/
theorem failed_write_spares (s : Surroundings σ) (call : Call) (writes : call.isWrite = true)
    (scene : Scene (σ × List Exchange)) :
    Spares scene (call.perform s.recording scene).2 (call.perform s.recording scene).1 := by
  cases call with
  | save model objects => exact spares_save s model objects scene
  | update model objects => exact spares_update s model objects scene
  | updateWhere condition => exact spares_updateWhere s condition scene
  | delete model objects => exact spares_delete s model objects scene
  | deleteById model keys => exact spares_deleteById s model keys scene
  | deleteWhere condition => exact spares_deleteWhere s condition scene
  | _ => cases writes

/-- Three counts take a statement each where three parameters are the most. Nothing is sent if the last one has no key,
and no third statement if the second is refused. -/
theorem counts_spared :
    let s := Surroundings.numbering ⟨[counterMetadata]⟩ (fun count => if count = 1 then .refused "locked" else .done 1)
      fun _ => .ok ()
    let call (keys : List Int) : Call := .update counter (keys.map fun key => .fields [("id", .int key), ("count", .int 5)])
    let start : Scene (Nat × List Exchange) :=
      ⟨opened (.numbered 3) {} (.ofMilliseconds 1) .connection, ⟨0, []⟩, (0, [])⟩
    let rejected := (call [1, 2, 0]).perform s.recording start
    let stopped := (call [1, 2, 3]).perform s.recording start
    (∀ keys, (call keys).isWrite = true) ∧
      rejected.1 = .error (.validation (.updateWithoutKey "counter")) ∧ rejected.2.world.2 = [] ∧
      ∃ first second, stopped.2.world.2 = [first, second] ∧ second.isDone = false := by
  intro s call start rejected stopped
  have failed : rejected.1 = .error (.validation (.updateWithoutKey "counter")) := by with_unfolding_all rfl
  obtain ⟨unsent, _⟩ := (failed_write_spares s (call [1, 2, 0]) rfl start).rejected _ failed rfl
  obtain ⟨sent, added, last⟩ := (failed_write_spares s (call [1, 2, 3]) rfl start).stopped
  obtain ⟨first, second, late, record, refused⟩ : ∃ first second late,
      stopped.2.world.2 = [first] ++ second :: late ∧ second.isDone = false :=
    ⟨_, _, _, by with_unfolding_all rfl, rfl⟩
  obtain ⟨rfl, _⟩ := last [first] second late (added.symm.trans record) refused
  exact ⟨fun _ => rfl, failed, unsent, first, second, record, refused⟩

end Work

end RecordMapper
