import RecordMapper.Proofs.WorkEffects

/-! Each call makes the step that is due for it. -/

namespace RecordMapper.Work

namespace Call

def target? (registry : Registry) : Call → Option Metadata
  | .save model _ | .update model _ | .delete model _ | .deleteById model _ => registry.find? model.name
  | .updateWhere condition | .deleteWhere condition => condition.model.bind registry.find?
  | _ => none

def HasKey (metadata : Metadata) (model : Model α) (object : α) (key : Value) : Prop :=
  ∃ record, metadata.encode model object = .ok record ∧ metadata.keyOf record = .ok key

/-- Whether a queued write is the one that a call on a model has made. -/
def Carries (metadata : Metadata) : Call → StoreWrite → Prop
  | .save model objects, .save records => List.Forall₂ (SavedAs metadata model) objects records
  | .update model objects, .update records =>
    List.Forall₂ (fun object record => metadata.encode model object = .ok record) objects records
  | .delete model objects, .delete keys =>
    List.Forall₂ (HasKey metadata model) objects keys
  | .deleteById _ keys, .delete others => others = keys
  | .updateWhere condition, .updateWhere other => other = condition
  | .deleteWhere condition, .deleteWhere other => other = condition
  | _, _ => False

/-- Whether a call is a write that is repeated in the second store if it succeeds. -/
def mirrored (s : Surroundings σ) (options : WorkOptions) (call : Call) : Bool :=
  (call.target? s.registry).any fun metadata => options.mirrored && metadata.mirrored && s.store.isSome

def Queues (registry : Registry) (call : Call) (queued : QueuedWrite) : Prop :=
  call.target? registry = some queued.metadata ∧ call.Carries queued.metadata queued.write

/-- What a success of a call queues. -/
def due (s : Surroundings σ) (call : Call) : Due := fun work queued =>
  if call.mirrored s work.options then ∃ write, queued = [write] ∧ call.Queues s.registry write else queued = []

theorem mirrors_recording (s : Surroundings σ) (work : Work) (metadata : Metadata) :
    mirrors s.recording work metadata = (work.options.mirrored && metadata.mirrored && s.store.isSome) := by
  simp [mirrors, Surroundings.recording]

theorem due_of_one {s : Surroundings σ} {call : Call} {metadata : Metadata} {write : StoreWrite}
    (target : call.target? s.registry = some metadata) (carries : call.Carries metadata write) (work : Work)
    (queued : List QueuedWrite) (made : one s.recording metadata write work queued) : call.due s work queued := by
  subst made
  simp only [due, mirrored, target, Option.any_some, mirrors_recording]
  split
  · exact ⟨_, rfl, target, carries⟩
  · rfl

theorem due_of_nothing {s : Surroundings σ} {call : Call} (target : call.target? s.registry = none) (work : Work)
    (queued : List QueuedWrite) (made : nothing work queued) : call.due s work queued := by
  simpa [due, mirrored, target, nothing] using made

end Call

theorem find_of_lookup {registry : Registry} {typeName : String} {metadata : Metadata}
    (found : registry.lookup typeName = .ok metadata) : registry.find? typeName = some metadata := by
  unfold Registry.lookup at found
  split at found
  · cases found
    assumption
  · cases found

theorem bound_of_boundModel {s : Surroundings σ} {operation : String} {condition : Condition} {metadata : Metadata}
    (bound : boundModel s operation condition = .ok metadata) :
    condition.model.bind s.registry.find? = some metadata := by
  unfold boundModel at bound
  split at bound
  · cases bound
  · simp [*, find_of_lookup bound]

section

variable {closed : Bool}

theorem yields_lookup (s : Surroundings σ) (typeName : String) :
    Yields closed (liftM (s.registry.lookup typeName) : Attempt (σ × List Exchange) Metadata)
      fun metadata => s.registry.find? typeName = some metadata :=
  (yields_unclosed (unclosed_lookup s.registry typeName)).mono fun _ => find_of_lookup

theorem yields_boundModel (s : Surroundings σ) (operation : String) (condition : Condition) :
    Yields closed (liftM (boundModel s operation condition) : Attempt (σ × List Exchange) Metadata)
      fun metadata => condition.model.bind s.registry.find? = some metadata :=
  (yields_unclosed (unclosed_boundModel s operation condition)).mono fun _ => bound_of_boundModel

theorem leaves_insertAll (s : Surroundings σ) (metadata : Metadata) (records : List Record) :
    Leaves closed (insertAll s.recording metadata records) (one s.recording metadata (.save records)) := by
  refine .bind yields_get fun scene _ => ?_
  refine .bind (yields_unclosed (Statement.unclosed_insertChunked _ _ metadata records)) fun statements _ => ?_
  exact .bind (yields_executeAll s statements) fun rows _ => leaves_enqueue s metadata _ rows

theorem leaves_deleteKeys (s : Surroundings σ) (metadata : Metadata) (keys : List Value) :
    Leaves closed (deleteKeys s.recording metadata keys) (one s.recording metadata (.delete keys)) := by
  refine .bind yields_get fun scene _ => ?_
  refine .bind (yields_unclosed (Statement.unclosed_deleteByIds _ metadata keys)) fun statement _ => ?_
  exact leaves_written s _ (yields_execute s statement) metadata _

theorem steps_save (s : Surroundings σ) (model : Model α) (objects : List α) :
    Steps closed ((Call.save model objects).perform s.recording) ((Call.save model objects).due s) := by
  simp only [Call.perform, Work.save, bind_assoc, pure_bind]
  refine .after (quietly_prepareSave s model objects) fun result settles => ?_
  obtain ⟨prepared, objects⟩ := result
  refine (steps_recorded (.bind (.ofOutcome settles) fun found known => ?_)).map _
  obtain ⟨metadata, records⟩ := found
  obtain ⟨looked, saved⟩ := known
  exact (leaves_insertAll s metadata records).mono (Call.due_of_one (find_of_lookup looked) saved)

theorem steps_update (s : Surroundings σ) (model : Model α) (objects : List α) :
    Steps closed ((Call.update model objects).perform s.recording) ((Call.update model objects).due s) := by
  refine (steps_recorded ?_).map _
  refine .bind (yields_unclosed (unclosed_checkBatch "update" objects.length)) fun _ _ => ?_
  refine .bind (yields_lookup s model.name) fun metadata target => ?_
  refine .bind (.mapM (fun object => yields_unclosed (metadata.unclosed_encode model object)) objects)
    fun records encoded => .bind yields_get fun scene _ => ?_
  refine .bind (yields_unclosed (Statement.unclosed_updateBatchChunked _ _ metadata records)) fun statements _ => ?_
  exact (leaves_written s _ (yields_executeAll s statements) metadata _).mono (Call.due_of_one target encoded)

theorem steps_updateWhere (s : Surroundings σ) (condition : Condition) :
    Steps closed ((Call.updateWhere condition).perform s.recording) ((Call.updateWhere condition).due s) := by
  refine (steps_recorded ?_).map _
  refine .bind (yields_boundModel s _ condition) fun metadata target => ?_
  refine .bind yields_get fun scene _ => ?_
  refine .bind (yields_unclosed (Statement.unclosed_updateByCondition _ metadata condition)) fun statement _ => ?_
  exact (leaves_written s _ (yields_execute s statement) metadata _).mono (Call.due_of_one target rfl)

theorem yields_key (metadata : Metadata) (model : Model α) (object : α) :
    Yields closed (do
      let record ← (metadata.encode model object : Outcome Record)
      (metadata.keyOf record : Outcome Value) : Attempt (σ × List Exchange) Value)
      (Call.HasKey metadata model object) := by
  refine .bind (yields_unclosed (metadata.unclosed_encode model object)) fun record encoded => ?_
  exact (yields_unclosed (metadata.unclosed_keyOf record)).mono fun _ found => ⟨record, encoded, found⟩

theorem steps_delete (s : Surroundings σ) (model : Model α) (objects : List α) :
    Steps closed ((Call.delete model objects).perform s.recording) ((Call.delete model objects).due s) := by
  refine (steps_recorded ?_).map _
  refine .bind (yields_unclosed (unclosed_checkBatch "delete" objects.length)) fun _ _ => ?_
  refine .bind (yields_lookup s model.name) fun metadata target => ?_
  refine .bind (.mapM (yields_key metadata model) objects) fun keys found => ?_
  exact (leaves_deleteKeys s metadata keys).mono (Call.due_of_one target found)

theorem steps_deleteById (s : Surroundings σ) (model : Model α) (keys : List Value) :
    Steps closed ((Call.deleteById model keys).perform s.recording) ((Call.deleteById model keys).due s) := by
  refine (steps_recorded ?_).map _
  refine .bind (yields_unclosed (unclosed_checkBatch "delete by id" keys.length)) fun _ _ => ?_
  refine .bind (yields_lookup s model.name) fun metadata target => ?_
  exact (leaves_deleteKeys s metadata keys).mono (Call.due_of_one target rfl)

theorem steps_deleteWhere (s : Surroundings σ) (condition : Condition) :
    Steps closed ((Call.deleteWhere condition).perform s.recording) ((Call.deleteWhere condition).due s) := by
  refine (steps_recorded ?_).map _
  refine .bind (yields_boundModel s _ condition) fun metadata target => ?_
  refine .bind yields_get fun scene _ => ?_
  refine .bind (yields_unclosed (Statement.unclosed_deleteByCondition _ metadata condition)) fun statement _ => ?_
  exact (leaves_written s _ (yields_execute s statement) metadata _).mono (Call.due_of_one target rfl)

/-- A quiet attempt queues nothing, as is due for a call that is not a write of a model. -/
theorem steps_quiet (s : Surroundings σ) {call : Call} (target : call.target? s.registry = none)
    {attempt : Attempt (σ × List Exchange) α} (yields : Yields closed attempt fun _ => True) :
    Steps closed (recorded attempt) (call.due s) :=
  steps_recorded ((Leaves.of_yields yields).mono (Call.due_of_nothing target))

theorem steps_executeRaw (s : Surroundings σ) (text : String) (params : List Value) :
    Steps closed ((Call.executeRaw text params).perform s.recording) ((Call.executeRaw text params).due s) :=
  (steps_quiet s rfl (yields_execute s _)).map _

theorem steps_createTable (s : Surroundings σ) (model : Model α) :
    Steps closed ((Call.createTable model).perform s.recording) ((Call.createTable model).due s) := by
  refine steps_quiet s rfl ?_
  refine .bind (yields_lookup s model.name) fun metadata _ => ?_
  refine .bind yields_get fun scene _ => ?_
  refine .bind (yields_unclosed (Statement.unclosed_createTable _ metadata)) fun statement _ => ?_
  exact .bind (yields_execute s statement) fun _ _ => .pure trivial

theorem steps_dropTable (s : Surroundings σ) (model : Model α) :
    Steps closed ((Call.dropTable model).perform s.recording) ((Call.dropTable model).due s) := by
  refine steps_quiet s rfl ?_
  refine .bind (yields_lookup s model.name) fun metadata _ => ?_
  refine .bind yields_get fun scene _ => ?_
  refine .bind (yields_unclosed (Statement.unclosed_dropTable _ metadata)) fun statement _ => ?_
  exact .bind (yields_execute s statement) fun _ _ => .pure trivial

theorem found_map (given : α) (outcome : Outcome (Option α)) :
    (found given outcome).1.map (fun _ => ()) = outcome.map fun _ => () := by
  unfold found
  split <;> rfl

theorem steps_findById (s : Surroundings σ) (model : Model α) (object : α) :
    Steps closed ((Call.findById model object).perform s.recording) ((Call.findById model object).due s) := by
  simp only [Call.perform, Work.findById, bind_assoc, pure_bind, found_map]
  refine (steps_quiet s rfl ?_).map _
  refine .bind (yields_lookup s model.name) fun metadata _ => ?_
  refine .bind (yields_unclosed (metadata.unclosed_encode model object)) fun record _ => ?_
  refine .bind (yields_unclosed (metadata.unclosed_keyOf record)) fun key _ => ?_
  split
  · exact .bind (Yields.throw (by nofun)) fun _ _ => yields_fetchOne s model false metadata _
  · exact yields_fetchOne s model false metadata _

theorem steps_findOne (s : Surroundings σ) (model : Model α) (complex : Bool) (condition : Condition) (object : α) :
    Steps closed ((Call.findOne model complex condition object).perform s.recording)
      ((Call.findOne model complex condition object).due s) := by
  simp only [Call.perform, Work.findOne, bind_assoc, pure_bind, found_map]
  refine (steps_quiet s rfl ?_).map _
  refine .bind (yields_unclosed (unclosed_modelFor s.recording model condition)) fun metadata _ => ?_
  exact yields_fetchOne s model complex metadata condition

theorem steps_findList (s : Surroundings σ) (model : Model α) (complex : Bool) (condition : Condition) :
    Steps closed ((Call.findList model complex condition).perform s.recording)
      ((Call.findList model complex condition).due s) := by
  have unclosed := unclosed_modelFor s.recording model condition
  simp only [Call.perform, Work.findList]
  cases looked : modelFor s.recording model condition with
  | error failure =>
    rw [looked] at unclosed
    simp only [bind_assoc, pure_bind]
    exact (steps_quiet s rfl (Yields.throw fun same => unclosed (congrArg Except.error same))).map _
  | ok metadata =>
    simp only [bind_assoc, pure_bind]
    refine .after (quietly_fetchList s model complex metadata condition) fun result settles => ?_
    exact (steps_quiet s rfl (.ofOutcome settles)).map _

theorem steps_count (s : Surroundings σ) (condition : Condition) :
    Steps closed ((Call.count condition).perform s.recording) ((Call.count condition).due s) := by
  have counts : Yields closed (do
      let metadata ← if condition.isComplex then pure none else some <$> boundModel s.recording "count" condition
      countRows s.recording metadata condition) fun _ => True := by
    split
    · exact yields_countRows s none condition
    · rw [map_eq_pure_bind, bind_assoc]
      refine .bind (yields_unclosed (unclosed_boundModel s.recording _ condition)) fun metadata _ => ?_
      rw [pure_bind]
      exact yields_countRows s (some metadata) condition
  have steps : Steps closed _ ((Call.count condition).due s) := steps_quiet s rfl counts
  simp only [Call.perform, Work.count, bind_assoc]
  exact steps.returning (fun _ => ()) fun outcome => by cases outcome <;> rfl

theorem steps_exists (s : Surroundings σ) (condition : Condition) :
    Steps closed ((Call.exists? condition).perform s.recording) ((Call.exists? condition).due s) := by
  refine (steps_quiet s rfl ?_).map _
  refine .bind (yields_boundModel s _ condition) fun metadata _ => ?_
  refine .bind yields_get fun scene _ => ?_
  refine .bind (yields_unclosed (Statement.unclosed_exists _ metadata condition)) fun statement _ => ?_
  exact .bind (yields_fetchFirst s statement) fun _ _ => .pure trivial

theorem steps_perform (s : Surroundings σ) : ∀ {call : Call}, call.isClose = false →
    Steps closed (call.perform s.recording) (call.due s)
  | .save model objects, _ => steps_save s model objects
  | .update model objects, _ => steps_update s model objects
  | .updateWhere condition, _ => steps_updateWhere s condition
  | .delete model objects, _ => steps_delete s model objects
  | .deleteById model keys, _ => steps_deleteById s model keys
  | .deleteWhere condition, _ => steps_deleteWhere s condition
  | .findById model object, _ => steps_findById s model object
  | .findOne model complex condition object, _ => steps_findOne s model complex condition object
  | .findList model complex condition, _ => steps_findList s model complex condition
  | .count condition, _ => steps_count s condition
  | .exists? condition, _ => steps_exists s condition
  | .executeRaw text params, _ => steps_executeRaw s text params
  | .createTable model, _ => steps_createTable s model
  | .dropTable model, _ => steps_dropTable s model

end

end RecordMapper.Work
