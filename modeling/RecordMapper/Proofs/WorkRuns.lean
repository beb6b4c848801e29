import RecordMapper.Proofs.CallEffects

/-! Whole runs of a unit of work. Up to the first close the calls add up; closing asks for one end of the transaction
and may hand over the queue; after that nothing is sent. -/

namespace RecordMapper.Work

/-- The calls among those made whose writes are to be repeated: the successful ones that are mirrored. -/
def repeated (s : Surroundings σ) (options : WorkOptions) : List Call → List (Outcome Unit) → List Call
  | call :: calls, .ok () :: outcomes =>
    if call.mirrored s options then call :: repeated s options calls outcomes else repeated s options calls outcomes
  | _ :: calls, .error _ :: outcomes => repeated s options calls outcomes
  | _, _ => []

/-- What calls do to an open unit of work, one after the other. -/
structure Ran (s : Surroundings σ) (calls : List Call) (before after : Scene (σ × List Exchange))
    (outcomes : List (Outcome Unit)) : Prop where
  work : ∃ errors pending, after.work = { before.work with errors, pending }
  sends : Sends false before.world.2 after.world.2
  errors : after.work.errors = before.work.errors ++ messages outcomes
  pending : ∃ queued, after.work.pending = before.work.pending ++ queued ∧
    List.Forall₂ (Call.Queues s.registry) (repeated s before.work.options calls outcomes) queued

theorem messages_cons (outcome : Outcome Unit) (outcomes : List (Outcome Unit)) :
    messages (outcome :: outcomes) = messages [outcome] ++ messages outcomes := by
  cases outcome <;> rfl

theorem messages_eq_nil {outcomes : List (Outcome Unit)} : messages outcomes = [] ↔ Succeeded outcomes := by
  induction outcomes with
  | nil => simp [messages, Succeeded]
  | cons outcome rest ih =>
    rw [messages_cons, List.append_eq_nil_iff, ih]
    cases outcome <;> simp [messages, Succeeded]

theorem repeated_cons {s : Surroundings σ} {work : Work} {call : Call} {calls : List Call} {outcome : Outcome Unit}
    {outcomes : List (Outcome Unit)} {queued others : List QueuedWrite} (owed : Owed (call.due s) work queued outcome)
    (rest : List.Forall₂ (Call.Queues s.registry) (repeated s work.options calls outcomes) others) :
    List.Forall₂ (Call.Queues s.registry) (repeated s work.options (call :: calls) (outcome :: outcomes))
      (queued ++ others) := by
  cases outcome with
  | error failure =>
    have none : queued = [] := owed
    simpa [repeated, none] using rest
  | ok value =>
    have due : call.due s work queued := owed
    cases mirrors : call.mirrored s work.options with
    | true =>
      simp only [Call.due, mirrors, ↓reduceIte] at due
      obtain ⟨write, rfl, queues⟩ := due
      simpa [repeated, mirrors] using List.Forall₂.cons queues rest
    | false =>
      simp only [Call.due, mirrors, Bool.false_eq_true, ↓reduceIte] at due
      simpa [repeated, mirrors, due] using rest

theorem run_nil (s : Surroundings σ) (scene : Scene σ) : run s [] scene = ([], scene) := rfl

theorem run_cons (s : Surroundings σ) (call : Call) (calls : List Call) (scene : Scene σ) :
    run s (call :: calls) scene =
      ((call.perform s scene).1 :: (run s calls (call.perform s scene).2).1, (run s calls (call.perform s scene).2).2) :=
  rfl

theorem run_append (s : Surroundings σ) (rest : List Call) : ∀ (calls : List Call) (scene : Scene σ),
    run s (calls ++ rest) scene =
      ((run s calls scene).1 ++ (run s rest (run s calls scene).2).1, (run s rest (run s calls scene).2).2)
  | [], scene => rfl
  | call :: calls, scene => by
    rw [List.cons_append, run_cons, run_cons, run_append s rest calls]
    rfl

theorem Ran.cons {s : Surroundings σ} {call : Call} {calls : List Call} {before middle after : Scene (σ × List Exchange)}
    {outcome : Outcome Unit} {outcomes : List (Outcome Unit)} (open_ : before.work.isClosed = false)
    (step : Step before middle outcome (call.due s)) (rest : Ran s calls middle after outcomes) :
    Ran s (call :: calls) before after (outcome :: outcomes) := by
  obtain ⟨errors, pending, work⟩ := step.work
  obtain ⟨lastErrors, lastPending, last⟩ := rest.work
  have options : middle.work.options = before.work.options := by rw [work]
  have sends : Sends false before.world.2 middle.world.2 := open_ ▸ step.sends
  obtain ⟨queued, added, owed⟩ := step.pending open_
  obtain ⟨others, more, queues⟩ := rest.pending
  rw [options] at queues
  refine ⟨⟨lastErrors, lastPending, by rw [last, work]⟩, sends.trans rest.sends, ?_, queued ++ others, ?_, ?_⟩
  · have message : messages [outcome.map fun _ => ()] = messages [outcome] := by cases outcome <;> rfl
    rw [rest.errors, step.errors open_, message, messages_cons outcome outcomes, List.append_assoc]
  · rw [more, added, List.append_assoc]
  · exact repeated_cons owed queues

theorem Step.isClosed {before after : Scene (σ × List Exchange)} {outcome : Outcome α} {due : Due}
    (step : Step before after outcome due) : after.work.isClosed = before.work.isClosed := by
  obtain ⟨errors, pending, work⟩ := step.work
  rw [work]
  rfl

theorem ran_run (s : Surroundings σ) : ∀ {calls : List Call}, (∀ call ∈ calls, call.isClose = false) →
    ∀ {scene : Scene (σ × List Exchange)}, scene.work.isClosed = false →
      Ran s calls scene (run s.recording calls scene).2 (run s.recording calls scene).1
  | [], _, scene, _ => by
    rw [run_nil]
    exact ⟨⟨_, _, rfl⟩, .refl _ _, by simp [messages], [], by simp, .nil⟩
  | call :: calls, others, scene, open_ => by
    have step := steps_perform s (others call (by simp)) scene open_
    rw [run_cons]
    exact .cons open_ step (ran_run s (fun later member => others later (by simp [member])) (step.isClosed.trans open_))

theorem close_closed (s : Surroundings σ) {scene : Scene σ} (closed : scene.work.isClosed = true) :
    Call.close.perform s scene = (.ok (), scene) := by
  obtain ⟨⟨dialect, options, timeout, hold, errors, pending⟩, keys, world⟩ := scene
  obtain rfl : hold = none := by simpa [isClosed] using closed
  rfl

theorem run_closed (s : Surroundings σ) : ∀ (calls : List Call) {scene : Scene (σ × List Exchange)},
    scene.work.isClosed = true →
      (run s.recording calls scene).2.work.isClosed = true ∧ (run s.recording calls scene).2.world.2 = scene.world.2
  | [], scene, closed => ⟨closed, rfl⟩
  | call :: calls, scene, closed => by
    rw [run_cons]
    cases close : call.isClose with
    | true =>
      cases call with
      | close =>
        rw [close_closed s.recording closed]
        exact run_closed s calls closed
      | _ => cases close
    | false =>
      have step := steps_perform s close scene closed
      obtain ⟨sent, record, _, none⟩ := step.sends
      obtain ⟨still, rest⟩ := run_closed s calls (step.isClosed.trans closed)
      exact ⟨still, by rw [rest, record, none closed, List.append_nil]⟩

end RecordMapper.Work
