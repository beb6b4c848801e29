import RecordMapper.Proofs.WorkSteps

/-! What a call does to a unit of work. It may send statements. If it fails, its message is remembered and nothing is
queued; if it succeeds, nothing is remembered, and what is queued is the write that was made. -/

namespace RecordMapper.Work

/-- What a success queues, given the unit of work before. -/
abbrev Due := Work → List QueuedWrite → Prop

def nothing : Due := fun _ queued => queued = []

/-- A write of a mirrored model is queued, and that of another model is not. -/
def one (s : Surroundings σ) (metadata : Metadata) (write : StoreWrite) : Due := fun work queued =>
  queued = if mirrors s work metadata then [⟨metadata, write⟩] else []

section

variable {closed : Bool}

/-- What an attempt leaves behind: statements in the record and, after a success, what is due in the queue. -/
def Leaves (closed : Bool) (attempt : Attempt (σ × List Exchange) α) (due : Due) : Prop :=
  ∀ scene, scene.work.isClosed = closed →
    Sends closed scene.world.2 (attempt.run scene).2.world.2 ∧
    match (attempt.run scene).1 with
    | .ok _ => ∃ queued, due scene.work queued ∧
        (attempt.run scene).2.work = { scene.work with pending := scene.work.pending ++ queued }
    | .error failure => (attempt.run scene).2.work = scene.work ∧ (closed = false → failure ≠ .closed)

theorem act_bind (act : Act σ α) (next : α → Act σ β) (scene : Scene σ) :
    (act >>= next) scene = next (act scene).1 (act scene).2 := rfl

theorem act_get (scene : Scene σ) : (get : Act σ (Scene σ)) scene = (scene, scene) := rfl

theorem run_get (scene : Scene σ) : (get : Attempt σ (Scene σ)).run scene = (.ok scene, scene) := rfl

theorem run_outcome (outcome : Outcome α) (scene : Scene σ) :
    (liftM outcome : Attempt σ α).run scene = (outcome, scene) := by
  cases outcome <;> rfl

theorem run_bind (attempt : Attempt σ α) (next : α → Attempt σ β) (scene : Scene σ) :
    (attempt >>= next).run scene =
      match attempt.run scene with
      | (.ok value, later) => (next value).run later
      | (.error failure, later) => (.error failure, later) := by
  rw [ExceptT.run_bind, act_bind]
  generalize attempt.run scene = reached
  obtain ⟨outcome, later⟩ := reached
  cases outcome <;> rfl

theorem run_bind_ok {attempt : Attempt σ α} {next : α → Attempt σ β} {scene later : Scene σ} {value : β} :
    (attempt >>= next).run scene = (.ok value, later) ↔
      ∃ found middle, attempt.run scene = (.ok found, middle) ∧ (next found).run middle = (.ok value, later) := by
  rw [run_bind]
  generalize attempt.run scene = reached
  obtain ⟨outcome, middle⟩ := reached
  cases outcome with
  | ok found =>
    constructor
    · exact fun ran => ⟨found, middle, rfl, ran⟩
    · rintro ⟨_, _, ⟨⟩, ran⟩
      exact ran
  | error failure => exact iff_of_false nofun fun ⟨_, _, same, _⟩ => nomatch same

theorem run_outcome_ok {outcome : Outcome α} {scene later : Scene σ} {value : α} :
    (liftM outcome : Attempt σ α).run scene = (.ok value, later) ↔ outcome = .ok value ∧ later = scene := by
  rw [run_outcome, Prod.mk.injEq, eq_comm (a := scene)]

theorem run_note (s : Surroundings σ) (event : Event) (scene : Scene σ) :
    (liftM (note s event) : Attempt σ Unit).run scene = (.ok (), { scene with world := s.note event scene.world }) := rfl

/-- A statement of an open unit of work is reported and then sent. -/
theorem run_send (s : Surroundings σ) {scene : Scene σ} (unclosed : scene.work.isClosed = false) (statement : Statement)
    (request : σ → Reply α × σ) :
    (send s statement request).run scene =
      let (reply, later) := request (s.note (.sending scene.work.dialect statement) scene.world)
      (ofReply scene.work.timeout reply, { scene with world := later }) := by
  simp only [send, run_bind, run_get, run_note, unclosed, Bool.false_eq_true, ↓reduceIte]
  rfl

/-- A closed one reports it too, and stops before the request. -/
theorem run_send_closed (s : Surroundings σ) {scene : Scene σ} (closed : scene.work.isClosed = true)
    (statement : Statement) (request : σ → Reply α × σ) :
    (send s statement request).run scene =
      (.error .closed, { scene with world := s.note (.sending scene.work.dialect statement) scene.world }) := by
  simp only [send, run_bind, run_get, run_note, closed, ↓reduceIte]
  rfl

theorem Leaves.bind {attempt : Attempt (σ × List Exchange) α} {next : α → Attempt (σ × List Exchange) β}
    {middle : α → Prop} {due : Due} (first : Yields closed attempt middle)
    (second : ∀ value, middle value → Leaves closed (next value) due) : Leaves closed (attempt >>= next) due := by
  intro scene same
  obtain ⟨quiet, settles⟩ := first scene same
  have sends : Sends closed scene.world.2 (attempt.run scene).2.world.2 := same ▸ quiet.sends
  rw [run_bind]
  generalize attempt.run scene = reached at quiet settles sends ⊢
  obtain ⟨outcome, later⟩ := reached
  cases outcome with
  | error failure => exact ⟨sends, quiet.work, settles⟩
  | ok value =>
    have unchanged : later.work = scene.work := quiet.work
    obtain ⟨more, left⟩ := second value settles later (by rw [unchanged, same])
    rw [unchanged] at left
    exact ⟨sends.trans more, left⟩

theorem Leaves.of_yields {attempt : Attempt (σ × List Exchange) α} {result : α → Prop}
    (yields : Yields closed attempt result) : Leaves closed attempt nothing := by
  intro scene same
  obtain ⟨quiet, settles⟩ := yields scene same
  refine ⟨same ▸ quiet.sends, ?_⟩
  cases outcome : (attempt.run scene).1 with
  | ok value => exact ⟨[], rfl, by simp [quiet.work]⟩
  | error failure =>
    rw [outcome] at settles
    exact ⟨quiet.work, settles⟩

theorem leaves_enqueue (s : Surroundings σ) (metadata : Metadata) (write : StoreWrite) (rows : UInt64) :
    Leaves closed (do
      (enqueue s.recording metadata write : Act (σ × List Exchange) Unit)
      return rows : Attempt (σ × List Exchange) UInt64) (one s.recording metadata write) := by
  intro scene same
  refine ⟨.refl closed _, _, rfl, ?_⟩
  change (if mirrors s.recording scene.work metadata then
    { scene.work with pending := scene.work.pending ++ [⟨metadata, write⟩] } else scene.work) = _
  split
  · rfl
  · simp

theorem leaves_written (s : Surroundings σ) (operation : String) {attempt : Attempt (σ × List Exchange) UInt64}
    (yields : Yields closed attempt fun _ => True) (metadata : Metadata) (write : StoreWrite) :
    Leaves closed (do
      let rows ← attempt
      (warnUntouched s.recording operation metadata rows : Act (σ × List Exchange) Unit)
      (enqueue s.recording metadata write : Act (σ × List Exchange) Unit)
      return rows : Attempt (σ × List Exchange) UInt64) (one s.recording metadata write) := by
  refine .bind yields fun rows _ => ?_
  exact .bind (.ofAct (quietly_warnUntouched s operation metadata rows)) fun _ _ => leaves_enqueue s metadata write rows

theorem Leaves.mono {attempt : Attempt (σ × List Exchange) α} {due weaker : Due} (leaves : Leaves closed attempt due)
    (implies : ∀ work queued, due work queued → weaker work queued) : Leaves closed attempt weaker := by
  intro scene same
  obtain ⟨sends, left⟩ := leaves scene same
  refine ⟨sends, ?_⟩
  generalize attempt.run scene = reached at left ⊢
  obtain ⟨outcome, later⟩ := reached
  cases outcome with
  | error failure => exact left
  | ok value =>
    obtain ⟨queued, accepted, work⟩ := left
    exact ⟨queued, implies _ queued accepted, work⟩

def Owed (due : Due) (work : Work) (queued : List QueuedWrite) : Outcome α → Prop
  | .ok _ => due work queued
  | .error _ => queued = []

/-- What a call does to a unit of work. -/
structure Step (before after : Scene (σ × List Exchange)) (outcome : Outcome α) (due : Due) : Prop where
  /-- Only errors and queued writes are changed. -/
  work : ∃ errors pending, after.work = { before.work with errors, pending }
  sends : Sends before.work.isClosed before.world.2 after.world.2
  errors : before.work.isClosed = false →
    after.work.errors = before.work.errors ++ messages [outcome.map fun _ => ()]
  pending : before.work.isClosed = false →
    ∃ queued, after.work.pending = before.work.pending ++ queued ∧ Owed due before.work queued outcome

theorem Step.of_quiet {before middle after : Scene (σ × List Exchange)} {outcome : Outcome α} {due : Due}
    (quiet : Quiet before middle) (step : Step middle after outcome due) : Step before after outcome due := by
  obtain ⟨work, sends, errors, pending⟩ := step
  rw [quiet.work] at work sends errors pending
  exact ⟨work, quiet.sends.trans sends, errors, pending⟩

theorem Step.map {before after : Scene (σ × List Exchange)} {outcome : Outcome α} {due : Due}
    (step : Step before after outcome due) (result : α → β) : Step before after (outcome.map result) due := by
  obtain ⟨work, sends, errors, pending⟩ := step
  cases outcome <;> exact ⟨work, sends, errors, pending⟩

theorem Step.ok {before after : Scene (σ × List Exchange)} {due : Due} {queued : List QueuedWrite} {value : α}
    (sends : Sends before.work.isClosed before.world.2 after.world.2) (accepted : due before.work queued)
    (work : after.work = { before.work with pending := before.work.pending ++ queued }) :
    Step before after (.ok value) due := by
  refine ⟨⟨_, _, work⟩, sends, fun _ => ?_, fun _ => ⟨queued, by rw [work], accepted⟩⟩
  simp [work, messages, Except.map]

/-- A call that makes a step wherever it starts. -/
def Steps (closed : Bool) (act : Act (σ × List Exchange) (Outcome α)) (due : Due) : Prop :=
  ∀ scene, scene.work.isClosed = closed → Step scene (act scene).2 (act scene).1 due

/-- A unit of work after a call with an outcome. -/
def marked : Outcome α → Work → Work
  | .ok _, work => work
  | .error .closed, work => work
  | .error failure, work => { work with errors := work.errors ++ [failure.message] }

theorem recorded_apply (attempt : Attempt σ α) (scene : Scene σ) :
    recorded attempt scene =
      ((attempt.run scene).1,
        { (attempt.run scene).2 with work := marked (attempt.run scene).1 (attempt.run scene).2.work }) := by
  unfold recorded
  rw [act_bind]
  generalize attempt.run scene = reached
  obtain ⟨outcome, later⟩ := reached
  cases outcome with
  | ok value => rfl
  | error failure => cases failure <;> rfl

theorem recorded_ok {attempt : Attempt σ α} {scene later : Scene σ} {value : α} :
    recorded attempt scene = (.ok value, later) ↔ attempt.run scene = (.ok value, later) := by
  rw [recorded_apply]
  generalize attempt.run scene = reached
  obtain ⟨outcome, middle⟩ := reached
  cases outcome with
  | ok found => rfl
  | error failure => exact iff_of_false nofun nofun

theorem marked_error {failure : Failure} (other : failure ≠ .closed) (work : Work) :
    marked (.error failure : Outcome α) work = { work with errors := work.errors ++ [failure.message] } := by
  cases failure with
  | closed => exact absurd rfl other
  | _ => rfl

theorem marked_settings (outcome : Outcome α) (work : Work) :
    ∃ errors, marked outcome work = { work with errors } := by
  unfold marked
  split <;> exact ⟨_, rfl⟩

theorem Step.error {before after : Scene (σ × List Exchange)} {due : Due} {failure : Failure}
    (sends : Sends before.work.isClosed before.world.2 after.world.2) (same : after.work = before.work)
    (other : before.work.isClosed = false → failure ≠ .closed) :
    Step before { after with work := marked (.error failure : Outcome α) after.work } (.error failure : Outcome α) due := by
  obtain ⟨errors, settings⟩ := marked_settings (.error failure : Outcome α) before.work
  refine ⟨⟨errors, before.work.pending, ?_⟩, sends, fun open_ => ?_, fun open_ => ⟨[], ?_, rfl⟩⟩
  · simpa only [same] using settings
  · simp [same, marked_error (other open_), messages, Except.map]
  · simp [same, marked_error (other open_)]

theorem steps_recorded {attempt : Attempt (σ × List Exchange) α} {due : Due} (leaves : Leaves closed attempt due) :
    Steps closed (recorded attempt) due := by
  rintro scene rfl
  obtain ⟨sends, left⟩ := leaves scene rfl
  rw [recorded_apply]
  generalize attempt.run scene = reached at left sends ⊢
  obtain ⟨outcome, later⟩ := reached
  cases outcome with
  | ok value =>
    obtain ⟨queued, accepted, work⟩ := left
    exact .ok sends accepted work
  | error failure =>
    obtain ⟨work, other⟩ := left
    exact .error sends work other

theorem Steps.returning {act : Act (σ × List Exchange) (Outcome α)}
    {tail : Outcome α → Act (σ × List Exchange) (Outcome β)} {due : Due} (steps : Steps closed act due)
    (result : α → β) (maps : ∀ outcome, tail outcome = pure (outcome.map result)) :
    Steps closed (act >>= tail) due := by
  intro scene same
  rw [act_bind, maps]
  exact (steps scene same).map result

theorem Steps.map {act : Act (σ × List Exchange) (Outcome α)} {due : Due} (steps : Steps closed act due)
    (result : α → β) : Steps closed (do return (← act).map result) due :=
  steps.returning result fun _ => rfl

theorem Steps.after {act : Act (σ × List Exchange) α} {next : α → Act (σ × List Exchange) (Outcome β)}
    {middle : α → Prop} {due : Due} (first : Quietly closed act middle)
    (second : ∀ value, middle value → Steps closed (next value) due) : Steps closed (act >>= next) due := by
  intro scene same
  obtain ⟨quiet, holds⟩ := first scene same
  exact .of_quiet quiet (second (act scene).1 holds (act scene).2 (by rw [quiet.work, same]))

end

end RecordMapper.Work
