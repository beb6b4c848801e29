import RecordMapper.Proofs.WorkRuns

/-! A closed unit of work beside the same one left open. Up to the first statement both do the same; there the open
one sends it and the closed one fails. -/

namespace RecordMapper.Work

/-- The same scene with the unit of work open. -/
def reopened (hold : Hold) (scene : Scene σ) : Scene σ := { scene with work := { scene.work with hold := some hold } }

/-- A part of a call that does not look at whether the unit of work is closed. -/
def Alike (act : Act (σ × List Exchange) α) (post : α → Prop) : Prop :=
  ∀ hold scene, act (reopened hold scene) = ((act scene).1, reopened hold (act scene).2) ∧ post (act scene).1

theorem Alike.pure {post : α → Prop} {value : α} (holds : post value) :
    Alike (Pure.pure value : Act (σ × List Exchange) α) post :=
  fun _ _ => ⟨rfl, holds⟩

theorem Alike.map {act : Act (σ × List Exchange) α} {middle : α → Prop} {post : β → Prop} (alike : Alike act middle)
    (result : α → β) (holds : ∀ value, middle value → post (result value)) : Alike (do return result (← act)) post := by
  intro hold scene
  obtain ⟨same, held⟩ := alike hold scene
  exact ⟨by rw [act_bind, same]; rfl, holds _ held⟩

/-- One that besides leaves the unit of work as it is and sends nothing. -/
def Indifferent (act : Act (σ × List Exchange) α) (post : α → Prop) : Prop :=
  ∀ hold scene,
    act (reopened hold scene) = ((act scene).1, reopened hold (act scene).2) ∧
    (act scene).2.work = scene.work ∧ (act scene).2.world.2 = scene.world.2 ∧ post (act scene).1

theorem Indifferent.pure {post : α → Prop} {value : α} (holds : post value) :
    Indifferent (Pure.pure value : Act (σ × List Exchange) α) post :=
  fun _ _ => ⟨rfl, rfl, rfl, holds⟩

theorem Indifferent.bind {act : Act (σ × List Exchange) α} {next : α → Act (σ × List Exchange) β} {middle : α → Prop}
    {post : β → Prop} (first : Indifferent act middle)
    (second : ∀ value, middle value → Indifferent (next value) post) : Indifferent (act >>= next) post := by
  intro hold scene
  obtain ⟨same, work, record, holds⟩ := first hold scene
  obtain ⟨again, kept, silent, result⟩ := second _ holds hold (act scene).2
  refine ⟨?_, kept.trans work, silent.trans record, result⟩
  rw [act_bind, same]
  exact again

/-- An attempt that does not look at whether the unit of work is closed, and does not fail for that. -/
def Passes (attempt : Attempt (σ × List Exchange) α) (result : α → Prop) : Prop :=
  Indifferent attempt.run (Settles false result)

theorem Passes.bind {attempt : Attempt (σ × List Exchange) α} {next : α → Attempt (σ × List Exchange) β}
    {middle : α → Prop} {result : β → Prop} (first : Passes attempt middle)
    (second : ∀ value, middle value → Passes (next value) result) : Passes (attempt >>= next) result := by
  unfold Passes
  rw [ExceptT.run_bind]
  apply Indifferent.bind first
  intro outcome settles
  cases outcome with
  | ok value => exact second value settles
  | error failure => exact Indifferent.pure settles

theorem Passes.pure {result : α → Prop} {value : α} (holds : result value) :
    Passes (Pure.pure value : Attempt (σ × List Exchange) α) result :=
  Indifferent.pure holds

theorem Passes.throw {failure : Failure} (other : failure ≠ .closed) :
    Passes (throw failure : Attempt (σ × List Exchange) α) fun _ => True :=
  Indifferent.pure fun _ => other

theorem Passes.mono {attempt : Attempt (σ × List Exchange) α} {result weaker : α → Prop} (passes : Passes attempt result)
    (implies : ∀ value, result value → weaker value) : Passes attempt weaker := by
  intro hold scene
  obtain ⟨same, work, record, settles⟩ := passes hold scene
  refine ⟨same, work, record, ?_⟩
  generalize (attempt.run scene).1 = outcome at settles
  cases outcome with
  | ok value => exact implies value settles
  | error failure => exact settles

theorem Passes.ofOutcome {outcome : Outcome α} (unclosed : Unclosed outcome) :
    Passes (liftM outcome : Attempt (σ × List Exchange) α) fun value => outcome = .ok value :=
  Indifferent.pure (Settles.unclosed unclosed)

theorem Passes.mapM {step : α → Attempt (σ × List Exchange) β} {result : α → β → Prop}
    (each : ∀ item, Passes (step item) (result item)) (items : List α) : Passes (items.mapM step) fun _ => True := by
  induction items with
  | nil => exact Passes.pure trivial
  | cons item rest ih =>
    rw [List.mapM_cons]
    exact Passes.bind (each item) fun _ _ => Passes.bind ih fun _ _ => Passes.pure trivial

theorem Passes.ofAct {act : Act (σ × List Exchange) α} {result : α → Prop} (indifferent : Indifferent act result) :
    Passes (liftM act : Attempt (σ × List Exchange) α) result := by
  change Indifferent (act >>= fun value => Pure.pure (.ok value)) (Settles false result)
  exact Indifferent.bind indifferent fun _ holds => Indifferent.pure holds

theorem indifferent_reading (s : Surroundings σ) : Indifferent (ask s.recording.reading) fun _ => True :=
  fun _ _ => ⟨rfl, rfl, rfl, trivial⟩

theorem passes_freshKey (s : Surroundings σ) (metadata : Metadata) :
    Passes (freshKey s.recording metadata) fun _ => True := by
  apply Passes.bind (Passes.ofAct (indifferent_reading s))
  intro reading _ hold scene
  have unclosed := unclosed_next reading scene.work.options.node scene.keys
  simp only [run_bind, run_get, run_outcome]
  -- keys are drawn with the node of the options, which reopening does not touch
  have same : (reopened hold scene).keys.next reading (reopened hold scene).work.options.node =
    scene.keys.next reading scene.work.options.node := rfl
  rw [same]
  generalize scene.keys.next reading scene.work.options.node = drawn at unclosed ⊢
  cases drawn with
  | error failure => exact ⟨rfl, rfl, rfl, Settles.failed unclosed⟩
  | ok found => exact ⟨rfl, rfl, rfl, trivial⟩

theorem passes_keyed (s : Surroundings σ) (metadata : Metadata) (model : Model α) (object : α) :
    Passes (keyed s.recording metadata model object) fun _ => True := by
  apply Passes.bind (Passes.ofOutcome (metadata.unclosed_encode model object))
  intro record _
  apply Passes.bind (Passes.ofOutcome (metadata.unclosed_keyOf record))
  intro key _
  split
  · apply Passes.bind (passes_freshKey s metadata)
    intro fresh _
    apply Passes.bind (Passes.ofOutcome (metadata.unclosed_decode model _))
    exact fun _ _ => Passes.pure trivial
  · exact Passes.pure trivial

theorem indifferent_keyedAll (s : Surroundings σ) (metadata : Metadata) (model : Model α) (objects : List α) :
    Indifferent (keyedAll s.recording metadata model objects) fun result => Settles false (fun _ => True) result.1 := by
  induction objects with
  | nil => exact Indifferent.pure trivial
  | cons object rest ih =>
    apply Indifferent.bind (passes_keyed s metadata model object)
    intro outcome settles
    cases outcome with
    | error failure => exact Indifferent.pure settles
    | ok first =>
      apply Indifferent.bind ih
      intro others settled
      obtain ⟨records, objects⟩ := others
      apply Indifferent.pure
      cases records with
      | error failure => exact settled
      | ok records => trivial

theorem indifferent_prepareSave (s : Surroundings σ) (model : Model α) (objects : List α) :
    Indifferent (prepareSave s.recording model objects) fun result => Unclosed result.1 := by
  have unclosed := unclosed_savable s.recording model objects
  unfold prepareSave
  cases looked : savable s.recording model objects with
  | error failure =>
    rw [looked] at unclosed
    exact Indifferent.pure fun same => unclosed (by rw [Except.error.inj same])
  | ok metadata =>
    apply Indifferent.bind (indifferent_keyedAll s metadata model objects)
    intro result settles
    obtain ⟨records, objects⟩ := result
    apply Indifferent.pure
    cases records with
    | error failure => exact fun same => settles rfl (Except.error.inj same)
    | ok records => nofun

/-- A part of a call that takes nothing back from the record. -/
def Appends (act : Act (σ × List Exchange) α) : Prop :=
  ∀ scene, ∃ sent, (act scene).2.world.2 = scene.world.2 ++ sent

theorem Appends.of_yields {attempt : Attempt (σ × List Exchange) α}
    (yields : ∀ closed, Yields closed attempt fun _ => True) : Appends attempt.run := by
  intro scene
  obtain ⟨⟨_, sent, added, _⟩, _⟩ := yields scene.work.isClosed scene rfl
  exact ⟨sent, added⟩

theorem Appends.of_leaves {attempt : Attempt (σ × List Exchange) α} {due : Due}
    (leaves : ∀ closed, Leaves closed attempt due) : Appends attempt.run := by
  intro scene
  obtain ⟨⟨sent, added, _⟩, _⟩ := leaves scene.work.isClosed scene rfl
  exact ⟨sent, added⟩

theorem Appends.pure (value : α) : Appends (Pure.pure value : Act (σ × List Exchange) α) :=
  fun _ => ⟨[], (List.append_nil _).symm⟩

theorem Appends.map {act : Act (σ × List Exchange) α} (appends : Appends act) (result : α → β) :
    Appends (do return result (← act)) :=
  appends

/-- Something has been sent. -/
def Sent (before after : Scene (σ × List Exchange)) : Prop :=
  ∃ exchange rest, after.world.2 = before.world.2 ++ exchange :: rest

section

variable {dialect : Dialect}

/-- A part of a call that fails once the unit of work is closed: because of that, where an open one sends something,
or else as an open one does, which then sends nothing. -/
def Refuses (dialect : Dialect) (act : Act (σ × List Exchange) β) (outcome : β → Outcome α) : Prop :=
  ∀ hold scene, scene.work.dialect = dialect → scene.work.isClosed = true →
    ∃ failure, outcome (act scene).1 = .error failure ∧
      (failure = .closed ∧ Sent scene (act (reopened hold scene)).2 ∨
        failure ≠ .closed ∧ act (reopened hold scene) = ((act scene).1, reopened hold (act scene).2))

theorem Refuses.after {act : Act (σ × List Exchange) α} {next : α → Act (σ × List Exchange) β} {middle : α → Prop}
    {outcome : β → Outcome γ} (first : Indifferent act middle)
    (second : ∀ value, middle value → Refuses dialect (next value) outcome) :
    Refuses dialect (act >>= next) outcome := by
  intro hold scene named closed
  obtain ⟨same, work, record, holds⟩ := first hold scene
  have still : (act scene).2.work.isClosed = true := by rw [work, closed]
  obtain ⟨failure, failed, reached⟩ := second _ holds hold (act scene).2 (by rw [work, named]) still
  refine ⟨failure, failed, ?_⟩
  rw [act_bind, same]
  rcases reached with ⟨blamed, exchange, rest, added⟩ | ⟨other, again⟩
  · exact .inl ⟨blamed, exchange, rest, by rw [added, record]⟩
  · exact .inr ⟨other, again⟩

/-- What is done after a failure may depend on it, but not on whether the unit of work is closed. -/
theorem Refuses.bind {act : Act (σ × List Exchange) α} {next : α → Act (σ × List Exchange) β} {middle : α → Outcome γ}
    {outcome : β → Outcome δ} (first : Refuses dialect act middle)
    (failing : ∀ value failure, middle value = .error failure →
      Alike (next value) fun result => outcome result = .error failure)
    (rest : ∀ value, Appends (next value)) : Refuses dialect (act >>= next) outcome := by
  intro hold scene named closed
  obtain ⟨failure, failed, reached⟩ := first hold scene named closed
  obtain ⟨same, fails⟩ := failing _ failure failed hold (act scene).2
  refine ⟨failure, fails, ?_⟩
  rcases reached with ⟨blamed, exchange, more, added⟩ | ⟨other, again⟩
  · obtain ⟨last, appended⟩ := rest (act (reopened hold scene)).1 (act (reopened hold scene)).2
    refine .inl ⟨blamed, exchange, more ++ last, ?_⟩
    rw [act_bind, appended, added]
    simp
  · refine .inr ⟨other, ?_⟩
    rw [act_bind, again]
    exact same

theorem Refuses.map {act : Act (σ × List Exchange) α} {middle : α → Outcome γ} {outcome : β → Outcome δ}
    (first : Refuses dialect act middle) (result : α → β)
    (fails : ∀ value failure, middle value = .error failure → outcome (result value) = .error failure) :
    Refuses dialect (do return result (← act)) outcome := by
  apply first.bind
  · intro value failure failed
    exact Alike.pure (fails value failure failed)
  · exact fun value => Appends.pure (result value)

theorem refuses_get {next : Scene (σ × List Exchange) → Act (σ × List Exchange) β} {outcome : β → Outcome α}
    (same : ∀ hold scene, next (reopened hold scene) = next scene)
    (each : ∀ scene, scene.work.dialect = dialect → Refuses dialect (next scene) outcome) :
    Refuses dialect (get >>= next) outcome := by
  intro hold scene named closed
  have reached := each scene named hold scene named closed
  rw [act_bind, act_bind, act_get, act_get, same]
  exact reached

/-- An attempt that fails once the unit of work is closed. -/
abbrev Fails (dialect : Dialect) (attempt : Attempt (σ × List Exchange) α) : Prop := Refuses dialect attempt.run id

theorem fails_throw {failure : Failure} (other : failure ≠ .closed) :
    Fails dialect (throw failure : Attempt (σ × List Exchange) α) :=
  fun _ _ _ _ => ⟨failure, rfl, .inr ⟨other, rfl⟩⟩

theorem Fails.after {attempt : Attempt (σ × List Exchange) α} {next : α → Attempt (σ × List Exchange) β}
    {middle : α → Prop} (first : Passes attempt middle) (second : ∀ value, middle value → Fails dialect (next value)) :
    Fails dialect (attempt >>= next) := by
  unfold Fails
  rw [ExceptT.run_bind]
  apply Refuses.after first
  intro outcome settles
  cases outcome with
  | ok value => exact second value settles
  | error failure => exact fails_throw (settles rfl)

theorem Fails.bind {attempt : Attempt (σ × List Exchange) α} {next : α → Attempt (σ × List Exchange) β}
    (first : Fails dialect attempt) (rest : ∀ value, Appends (next value).run) : Fails dialect (attempt >>= next) := by
  unfold Fails
  rw [ExceptT.run_bind]
  apply Refuses.bind first
  · intro outcome failure failed
    cases failed
    exact Alike.pure rfl
  · intro outcome
    cases outcome with
    | ok value => exact rest value
    | error failure => exact Appends.pure _

theorem fails_get {next : Scene (σ × List Exchange) → Attempt (σ × List Exchange) α}
    (same : ∀ hold scene, next (reopened hold scene) = next scene)
    (each : ∀ scene, scene.work.dialect = dialect → Fails dialect (next scene)) : Fails dialect (get >>= next) := by
  intro hold scene named closed
  have reached := each scene named hold scene named closed
  rw [run_bind, run_bind, run_get, run_get]
  simp only [same]
  exact reached

theorem fails_send (s : Surroundings σ) (statement : Statement)
    {request : σ × List Exchange → Reply α × (σ × List Exchange)} (recorded : Recorded request) :
    Fails dialect (send s.recording statement request) := by
  intro hold scene _ closed
  rw [run_send_closed s.recording closed]
  refine ⟨.closed, rfl, .inl ⟨rfl, ?_⟩⟩
  rw [run_send s.recording (show (reopened hold scene).work.isClosed = false from rfl)]
  obtain ⟨exchange, _, added⟩ := recorded (s.recording.note (.sending scene.work.dialect statement) scene.world)
  exact ⟨exchange, [], added⟩

theorem fails_execute (s : Surroundings σ) (statement : Statement) :
    Fails dialect (execute s.recording statement) :=
  fails_send s statement fun _ => ⟨_, rfl, rfl⟩

theorem fails_executeAll (s : Surroundings σ) {statements : List Statement} (some : statements ≠ []) :
    Fails dialect (executeAll s.recording statements) := by
  cases statements with
  | nil => exact absurd rfl some
  | cons statement rest =>
    apply Fails.bind (fails_execute s statement)
    intro rows
    apply Appends.of_yields
    intro closed
    exact Yields.bind (yields_executeAll s rest) fun _ _ => Yields.pure trivial

theorem fails_fetchAll (s : Surroundings σ) (statement : Statement) : Fails dialect (fetchAll s.recording statement) := by
  apply Fails.bind (fails_send s statement fun _ => ⟨_, rfl, rfl⟩)
  intro rows
  exact Appends.of_yields fun closed => (yields_unclosed (.mapM unclosed_readable rows)).mono fun _ _ => trivial

theorem fails_fetchFirst (s : Surroundings σ) (statement : Statement) :
    Fails dialect (fetchFirst s.recording statement) := by
  apply Fails.bind (fails_send s statement fun _ => ⟨_, rfl, rfl⟩)
  intro rows
  apply Appends.of_yields
  intro closed
  cases rows with
  | nil => exact Yields.pure trivial
  | cons row rest => exact Yields.bind (yields_unclosed (unclosed_readable row)) fun _ _ => Yields.pure trivial

theorem fails_countRows (s : Surroundings σ) (metadata : Option Metadata) (condition : Condition) :
    Fails dialect (countRows s.recording metadata condition) := by
  apply fails_get fun _ _ => rfl
  intro scene _
  apply Fails.after (Passes.ofOutcome (Statement.unclosed_count _ metadata condition))
  intro statement _
  apply Fails.bind (fails_fetchFirst s statement)
  intro row
  exact Appends.of_yields fun closed => (yields_unclosed (unclosed_totalOf row)).mono fun _ _ => trivial

theorem fails_fetchOne (s : Surroundings σ) (model : Model α) (complex : Bool) (metadata : Metadata)
    (condition : Condition) : Fails dialect (fetchOne s.recording model complex metadata condition) := by
  apply fails_get fun _ _ => rfl
  intro scene _
  apply Fails.after (Passes.ofOutcome (unclosed_reading _ complex metadata condition))
  intro statement _
  apply Fails.bind (fails_fetchFirst s _)
  intro row
  apply Appends.of_yields
  intro closed
  cases row with
  | none => exact Yields.pure trivial
  | some row => exact Yields.bind (yields_unclosed (metadata.unclosed_decodeRow model row)) fun _ _ => Yields.pure trivial

theorem fails_fetchObjects (s : Surroundings σ) (model : Model α) (metadata : Metadata) (statement : Statement) :
    Fails dialect (fetchObjects s.recording model metadata statement) := by
  apply Fails.bind (fails_fetchAll s statement)
  intro rows
  apply Appends.of_yields
  intro closed
  exact (yields_unclosed (.mapM (metadata.unclosed_decodeRow model) rows)).mono fun _ _ => trivial

end

end RecordMapper.Work
