import RecordMapper.Proofs.WorkRuns

/-! The close that counts. It asks for one end of a transaction, and what is queued is handed over only when nothing has
failed and nothing was left uncommitted. -/

namespace RecordMapper

/-- Every write is handed over once and in order, whatever the store answers. -/
theorem SecondStore.replay_recording (store : SecondStore σ) (writes : List QueuedWrite) (world : σ × List Exchange) :
    ∃ copies, (store.recording.replay writes world).2.2 = world.2 ++ copies ∧
      copies.map Exchange.copied? = writes.map some := by
  induction writes generalizing world with
  | nil => exact ⟨[], by simp [replay], rfl⟩
  | cons queued rest ih =>
    obtain ⟨state, record⟩ := world
    rcases reply : store.take queued state with ⟨answer, later⟩
    obtain ⟨copies, added, handed⟩ := ih (later, record ++ [.copy queued answer])
    refine ⟨.copy queued answer :: copies, ?_, by simp [handed, Exchange.copied?]⟩
    have after : (store.recording.replay (queued :: rest) (state, record)).2 =
        (store.recording.replay rest (later, record ++ [.copy queued answer])).2 := by
      simp only [replay, SecondStore.recording, recordedAs, reply]
      cases answer <;> rfl
    rw [after, added, List.append_assoc, List.singleton_append]

theorem SecondStore.replay_counts (store : SecondStore σ) (writes : List QueuedWrite) (world : σ) :
    (store.replay writes world).1.applied + (store.replay writes world).1.failed = writes.length := by
  induction writes generalizing world with
  | nil => rfl
  | cons queued rest ih =>
    rcases reply : store.take queued world with ⟨answer, later⟩
    have counted := ih later
    simp only [ReplayReport.failed] at counted
    simp only [replay, reply, ReplayReport.failed, List.length_cons]
    cases answer with
    | ok value =>
      simp only
      omega
    | error failure =>
      simp only [List.length_cons]
      omega

namespace Exchange

theorem isEnd_of_isStatement {exchange : Exchange} (statement : exchange.isStatement = true) :
    exchange.isEnd = false := by
  cases exchange with
  | execute | fetch => rfl
  | commit | rollback | copy => cases statement

theorem isEnd_of_copied {exchange : Exchange} (copied : exchange.copied?.isSome = true) : exchange.isEnd = false := by
  cases exchange with
  | copy => rfl
  | execute | fetch | commit | rollback => cases copied

theorem copied_of_isStatement {exchange : Exchange} (statement : exchange.isStatement = true) :
    exchange.copied? = none := by
  cases exchange with
  | execute | fetch => rfl
  | commit | rollback | copy => cases statement

theorem copied_of_isEnd {exchange : Exchange} (ends : exchange.isEnd = true) : exchange.copied? = none := by
  cases exchange with
  | commit | rollback => rfl
  | execute | fetch | copy => cases ends

theorem isEnd_of_isCommitted {exchange : Exchange} (committed : exchange.isCommitted = true) :
    exchange.isEnd = true := by
  cases exchange with
  | commit => rfl
  | execute | fetch | rollback | copy => cases committed

end Exchange

namespace Work

/-- What a transaction is asked for, given the errors met. -/
def Resolves (errors : List String) (ending : Exchange) : Prop :=
  ∃ reply, ending = if errors = [] then .commit reply else .rollback reply

theorem resolve_recording (s : Surroundings σ) (work : Work) (scene : Scene (σ × List Exchange)) :
    ∃ ending, Resolves work.errors ending ∧ (resolve s.recording work scene).1 = ending.isCommitted ∧
      (resolve s.recording work scene).2.work = scene.work ∧
      (resolve s.recording work scene).2.world.2 = scene.world.2 ++ [ending] := by
  obtain ⟨current, keys, state, record⟩ := scene
  by_cases clean : work.errors = []
  · rcases asked : s.commit state with ⟨reply, later⟩
    refine ⟨.commit reply, ⟨reply, by simp [clean]⟩, ?_⟩
    simp only [resolve, clean, List.isEmpty_nil, ↓reduceIte, act_bind, ask, Surroundings.recording, recordedAs, asked]
    cases reply with
    | done value => exact ⟨rfl, rfl, rfl⟩
    | refused text => exact ⟨rfl, rfl, rfl⟩
    | silent => exact ⟨rfl, rfl, rfl⟩
  · rcases asked : s.rollback (s.note (.rollingBack work.errors.length) state) with ⟨reply, later⟩
    refine ⟨.rollback reply, ⟨reply, by simp [clean]⟩, ?_⟩
    simp only [resolve, List.isEmpty_iff, clean, ↓reduceIte, act_bind, ask, note, tell, Surroundings.recording,
      recordedAs, asked]
    cases reply with
    | done value => exact ⟨rfl, rfl, rfl⟩
    | refused text => exact ⟨rfl, rfl, rfl⟩
    | silent => exact ⟨rfl, rfl, rfl⟩

theorem quiet_notes (s : Surroundings σ) (events : List Event) (scene : Scene (σ × List Exchange)) :
    (events.forM (note s.recording) scene).2.work = scene.work ∧
      (events.forM (note s.recording) scene).2.world.2 = scene.world.2 := by
  induction events generalizing scene with
  | nil => exact ⟨rfl, rfl⟩
  | cons event rest ih =>
    rw [List.forM_eq_forM, List.forM_cons, act_bind]
    exact ih _

theorem replay_recorded (s : Surroundings σ) (writes : List QueuedWrite) (scene : Scene (σ × List Exchange)) :
    ∃ copies, (replay s.recording writes scene).2.work = scene.work ∧
      (replay s.recording writes scene).2.world.2 = scene.world.2 ++ copies ∧
      copies.map Exchange.copied? = if s.store.isSome then writes.map some else [] := by
  obtain ⟨work, keys, world⟩ := scene
  cases attached : s.store with
  | none =>
    have idle : replay s.recording writes ⟨work, keys, world⟩ = ((), ⟨work, keys, world⟩) := by
      simp only [replay, Surroundings.recording, attached]
      rfl
    exact ⟨[], by simp [idle]⟩
  | some store =>
    have recorded : s.recording.store = some store.recording := by simp [Surroundings.recording, attached]
    cases writes with
    | nil =>
      have idle : replay s.recording [] ⟨work, keys, world⟩ = ((), ⟨work, keys, world⟩) := by
        simp only [replay, recorded]
        rfl
      exact ⟨[], by simp [idle]⟩
    | cons first rest =>
      obtain ⟨copies, added, handed⟩ := store.replay_recording (first :: rest) world
      obtain ⟨same, silent⟩ := quiet_notes s (store.recording.replay (first :: rest) world).1.events
        ⟨work, keys, (store.recording.replay (first :: rest) world).2⟩
      have reached : replay s.recording (first :: rest) ⟨work, keys, world⟩ =
          (store.recording.replay (first :: rest) world).1.events.forM (note s.recording)
            ⟨work, keys, (store.recording.replay (first :: rest) world).2⟩ := by
        simp only [replay, recorded]
        rfl
      rw [reached]
      exact ⟨copies, same, silent.trans added, by simpa using handed⟩

theorem handed_over (s : Surroundings σ) (committed : Bool) (writes : List QueuedWrite)
    (scene : Scene (σ × List Exchange)) :
    ∃ copies, ((if committed then replay s.recording writes else pure () : Act _ Unit) scene).2.work = scene.work ∧
      ((if committed then replay s.recording writes else pure () : Act _ Unit) scene).2.world.2 =
        scene.world.2 ++ copies ∧
      copies.map Exchange.copied? = if committed ∧ s.store.isSome then writes.map some else [] := by
  cases committed with
  | false => exact ⟨[], rfl, (List.append_nil _).symm, by simp⟩
  | true => simpa using replay_recorded s writes scene

def emptied (work : Work) : Work := { work with hold := none, pending := [] }

/-- The end that is asked for, which is none without a transaction. -/
def Resolved (errors : List String) (ends : List Exchange) : Hold → Prop
  | .connection => ends = []
  | .transaction => ∃ ending, ends = [ending] ∧ Resolves errors ending

structure Ends (s : Surroundings σ) (hold : Hold) (before after : Scene (σ × List Exchange)) : Prop where
  work : after.work = emptied before.work
  record : ∃ ends copies, after.world.2 = before.world.2 ++ (ends ++ copies) ∧
    Resolved before.work.errors ends hold ∧
    copies.map Exchange.copied? =
      if (before.work.errors = [] ∧ (hold = .transaction → ends.any Exchange.isCommitted)) ∧ s.store.isSome then
        before.work.pending.map some else []

theorem close_connection (s : Surroundings σ) {scene : Scene σ} (open_ : scene.work.hold = some .connection) :
    close s scene = (if scene.work.errors.isEmpty then replay s scene.work.pending else pure () : Act σ Unit)
      { scene with work := emptied scene.work, world := s.release scene.world } := by
  obtain ⟨⟨dialect, options, timeout, hold, errors, pending⟩, keys, world⟩ := scene
  cases open_
  rfl

theorem close_transaction (s : Surroundings σ) {scene : Scene σ} (open_ : scene.work.hold = some .transaction) :
    close s scene =
      let resolved := resolve s scene.work { scene with work := emptied scene.work }
      (if resolved.1 then replay s scene.work.pending else pure () : Act σ Unit) resolved.2 := by
  obtain ⟨⟨dialect, options, timeout, hold, errors, pending⟩, keys, world⟩ := scene
  cases open_
  rfl

theorem isCommitted_of_resolves {errors : List String} {ending : Exchange} (resolves : Resolves errors ending)
    (committed : ending.isCommitted = true) : errors = [] := by
  obtain ⟨reply, rfl⟩ := resolves
  by_contra failed
  simp [failed, Exchange.isCommitted] at committed

theorem close_open (s : Surroundings σ) {scene : Scene (σ × List Exchange)} {hold : Hold}
    (open_ : scene.work.hold = some hold) :
    (Call.close.perform s.recording scene).1 = .ok () ∧
      Ends s hold scene (Call.close.perform s.recording scene).2 := by
  refine ⟨rfl, ?_⟩
  have closes : (Call.close.perform s.recording scene).2 = (close s.recording scene).2 := rfl
  rw [closes]
  cases hold with
  | connection =>
    rw [close_connection s.recording open_]
    obtain ⟨copies, work, added, handed⟩ := handed_over s scene.work.errors.isEmpty scene.work.pending
      { scene with work := emptied scene.work, world := s.recording.release scene.world }
    exact ⟨work, [], copies, added, rfl, by simpa using handed⟩
  | transaction =>
    rw [close_transaction s.recording open_]
    obtain ⟨ending, resolves, committed, same, asked⟩ :=
      resolve_recording s scene.work { scene with work := emptied scene.work }
    obtain ⟨copies, work, added, handed⟩ := handed_over s ending.isCommitted scene.work.pending
      (resolve s.recording scene.work { scene with work := emptied scene.work }).2
    rw [← committed] at work added
    refine ⟨work.trans same, [ending], copies, ?_, ⟨ending, rfl, resolves⟩, ?_⟩
    · exact added.trans (by rw [asked, List.append_assoc])
    · have sure : (scene.work.errors = [] ∧ (Hold.transaction = .transaction → [ending].any Exchange.isCommitted)) ↔
          ending.isCommitted = true := by
        simpa using isCommitted_of_resolves resolves
      exact handed.trans (if_congr (and_congr_left' sure.symm) rfl rfl)

theorem Resolves.isEnd {errors : List String} {ending : Exchange} (resolves : Resolves errors ending) :
    ending.isEnd = true := by
  obtain ⟨reply, rfl⟩ := resolves
  split <;> rfl

theorem Resolved.isEnd {hold : Hold} {errors : List String} {ends : List Exchange}
    (resolved : Resolved errors ends hold) : ∀ ending ∈ ends, ending.isEnd = true := by
  cases hold with
  | connection => simp [show ends = [] from resolved]
  | transaction =>
    obtain ⟨ending, rfl, resolves⟩ := resolved
    simpa using resolves.isEnd

theorem copied_of_handed {copies : List Exchange} {writes : List QueuedWrite} {condition : Prop} [Decidable condition]
    (handed : copies.map Exchange.copied? = if condition then writes.map some else []) :
    ∀ exchange ∈ copies, exchange.copied?.isSome = true := by
  intro exchange member
  have answer : exchange.copied? ∈ copies.map Exchange.copied? := List.mem_map_of_mem member
  rw [handed] at answer
  split at answer
  · obtain ⟨queued, _, same⟩ := List.mem_map.mp answer
    simp [← same]
  · cases answer

theorem filter_isEnd {statements ends copies : List Exchange}
    (sent : ∀ exchange ∈ statements, exchange.isStatement = true) (resolved : ∀ ending ∈ ends, ending.isEnd = true)
    (copied : ∀ exchange ∈ copies, exchange.copied?.isSome = true) :
    (statements ++ (ends ++ copies)).filter Exchange.isEnd = ends := by
  have before : statements.filter Exchange.isEnd = [] :=
    List.filter_eq_nil_iff.mpr fun exchange member => by simp [Exchange.isEnd_of_isStatement (sent exchange member)]
  have after : copies.filter Exchange.isEnd = [] :=
    List.filter_eq_nil_iff.mpr fun exchange member => by simp [Exchange.isEnd_of_copied (copied exchange member)]
  rw [List.filter_append, List.filter_append, List.filter_eq_self.mpr resolved, before, after, List.append_nil,
    List.nil_append]

/-- Calls, the close that counts, and whatever follows. -/
theorem run_through (s : Surroundings σ) {scene : Scene (σ × List Exchange)} {hold : Hold}
    (open_ : scene.work.hold = some hold) {before : List Call} (others : ∀ call ∈ before, call.isClose = false)
    (after : List Call) :
    let worked := run s.recording before scene
    let closed := Call.close.perform s.recording worked.2
    let whole := run s.recording (before ++ .close :: after) scene
    Ran s before scene worked.2 worked.1 ∧ closed.1 = .ok () ∧ Ends s hold worked.2 closed.2 ∧
      whole.2.work.isClosed = true ∧ whole.2.world.2 = closed.2.world.2 := by
  intro worked closed whole
  have ran : Ran s before scene worked.2 worked.1 := ran_run s others (by simp [isClosed, open_])
  obtain ⟨_, _, work⟩ := ran.work
  have holds : worked.2.work.hold = some hold := by
    rw [work]
    exact open_
  obtain ⟨ok, ends⟩ := close_open s holds
  have empty : closed.2.work.isClosed = true := by
    rw [ends.work]
    rfl
  have rest : whole.2 = (run s.recording after closed.2).2 := by
    show (run s.recording (before ++ .close :: after) scene).2 = _
    rw [run_append, run_cons]
  rw [rest]
  exact ⟨ran, ok, ends, run_closed s after empty⟩

end Work

end RecordMapper
