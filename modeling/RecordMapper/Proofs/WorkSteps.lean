import Mathlib.Data.List.Forall2
import RecordMapper.Proofs.Unclosed
import RecordMapper.Proofs.WorkCalls

/-! What parts of a call do to a unit of work: most of them send statements and change nothing else. -/

namespace RecordMapper.Work

/-- Between two records there are only statements, and none if the unit of work was closed. -/
def Sends (closed : Bool) (before after : List Exchange) : Prop :=
  ∃ sent, after = before ++ sent ∧ (∀ exchange ∈ sent, exchange.isStatement) ∧ (closed → sent = [])

theorem Sends.refl (closed : Bool) (record : List Exchange) : Sends closed record record :=
  ⟨[], by simp, by simp, fun _ => rfl⟩

theorem Sends.trans {closed : Bool} {before middle after : List Exchange} (first : Sends closed before middle)
    (second : Sends closed middle after) : Sends closed before after := by
  obtain ⟨sent, rfl, statements, none⟩ := first
  obtain ⟨more, rfl, others, last⟩ := second
  refine ⟨sent ++ more, by simp, fun exchange member => ?_, fun closed => by simp [none closed, last closed]⟩
  rcases List.mem_append.mp member with early | late
  · exact statements exchange early
  · exact others exchange late

/-- Statements may have been sent, and nothing else has happened to the unit of work. -/
structure Quiet (before after : Scene (σ × List Exchange)) : Prop where
  work : after.work = before.work
  sends : Sends before.work.isClosed before.world.2 after.world.2

theorem Quiet.refl (scene : Scene (σ × List Exchange)) : Quiet scene scene := ⟨rfl, .refl _ _⟩

theorem Quiet.trans {before middle after : Scene (σ × List Exchange)} (first : Quiet before middle)
    (second : Quiet middle after) : Quiet before after := by
  refine ⟨second.work.trans first.work, first.sends.trans ?_⟩
  simpa only [first.work] using second.sends

section

variable {closed : Bool}

/-- On a unit of work that is closed, or is not, an act is quiet, and its result is as it has to be. -/
def Quietly (closed : Bool) (act : Act (σ × List Exchange) α) (post : α → Prop) : Prop :=
  ∀ scene, scene.work.isClosed = closed → Quiet scene (act scene).2 ∧ post (act scene).1

theorem Quietly.pure {post : α → Prop} {value : α} (holds : post value) :
    Quietly closed (Pure.pure value : Act (σ × List Exchange) α) post :=
  fun scene _ => ⟨.refl scene, holds⟩

theorem Quietly.bind {act : Act (σ × List Exchange) α} {next : α → Act (σ × List Exchange) β} {middle : α → Prop}
    {post : β → Prop} (first : Quietly closed act middle)
    (second : ∀ value, middle value → Quietly closed (next value) post) : Quietly closed (act >>= next) post := by
  intro scene same
  obtain ⟨quiet, holds⟩ := first scene same
  obtain ⟨later, result⟩ := second (act scene).1 holds (act scene).2 (by rw [quiet.work, same])
  exact ⟨quiet.trans later, result⟩

/-- What an outcome has to be: a failure blames a closed unit of work only if it is closed. -/
def Settles (closed : Bool) (result : α → Prop) : Outcome α → Prop
  | .ok value => result value
  | .error failure => closed = false → failure ≠ .closed

theorem Settles.unclosed {outcome : Outcome α} (unclosed : Unclosed outcome) :
    Settles closed (fun value => outcome = .ok value) outcome := by
  cases outcome with
  | ok value => rfl
  | error failure => exact fun _ same => unclosed (congrArg Except.error same)

theorem Settles.failed {failure : Failure} {result : β → Prop}
    (unclosed : Unclosed (.error failure : Outcome α)) : Settles closed result (.error failure) :=
  fun _ same => unclosed (congrArg Except.error same)

/-- An attempt that is quiet and, if it succeeds, returns what it has to. -/
def Yields (closed : Bool) (attempt : Attempt (σ × List Exchange) α) (result : α → Prop) : Prop :=
  Quietly closed attempt.run (Settles closed result)

theorem Yields.pure {result : α → Prop} {value : α} (holds : result value) :
    Yields closed (Pure.pure value : Attempt (σ × List Exchange) α) result :=
  Quietly.pure holds

theorem Yields.throw {failure : Failure} (other : failure ≠ .closed) :
    Yields closed (throw failure : Attempt (σ × List Exchange) α) fun _ => True :=
  Quietly.pure fun _ => other

theorem Yields.bind {attempt : Attempt (σ × List Exchange) α} {next : α → Attempt (σ × List Exchange) β}
    {middle : α → Prop} {result : β → Prop} (first : Yields closed attempt middle)
    (second : ∀ value, middle value → Yields closed (next value) result) :
    Yields closed (attempt >>= next) result := by
  rw [Yields, ExceptT.run_bind]
  refine Quietly.bind first fun outcome settles => ?_
  cases outcome with
  | ok value => exact second value settles
  | error failure => exact Quietly.pure settles

theorem Yields.mono {attempt : Attempt (σ × List Exchange) α} {result weaker : α → Prop}
    (yields : Yields closed attempt result) (implies : ∀ value, result value → weaker value) :
    Yields closed attempt weaker := by
  intro scene same
  obtain ⟨quiet, settles⟩ := yields scene same
  refine ⟨quiet, ?_⟩
  cases outcome : (attempt.run scene).1 with
  | ok value =>
    rw [outcome] at settles
    exact implies value settles
  | error failure =>
    rw [outcome] at settles
    exact settles

theorem Yields.mapM {step : α → Attempt (σ × List Exchange) β} {result : α → β → Prop}
    (each : ∀ item, Yields closed (step item) (result item)) (items : List α) :
    Yields closed (items.mapM step) (List.Forall₂ result items) := by
  induction items with
  | nil => exact Yields.pure .nil
  | cons item rest ih =>
    rw [List.mapM_cons]
    exact Yields.bind (each item) fun first here => Yields.bind ih fun others later => Yields.pure (.cons here later)

theorem Yields.ofOutcome {outcome : Outcome α} {result : α → Prop} (settles : Settles closed result outcome) :
    Yields closed (liftM outcome : Attempt (σ × List Exchange) α) result :=
  Quietly.pure settles

theorem Yields.ofAct {act : Act (σ × List Exchange) α} {result : α → Prop} (quietly : Quietly closed act result) :
    Yields closed (liftM act : Attempt (σ × List Exchange) α) result :=
  Quietly.bind quietly fun _ holds => Quietly.pure holds

theorem quietly_get :
    Quietly closed (get : Act (σ × List Exchange) _) fun scene => scene.work.isClosed = closed :=
  fun scene same => ⟨.refl scene, same⟩

theorem yields_get :
    Yields closed (get : Attempt (σ × List Exchange) _) fun scene => scene.work.isClosed = closed :=
  Yields.ofAct quietly_get

theorem quietly_note (s : Surroundings σ) (event : Event) :
    Quietly closed (note s.recording event) fun _ => True :=
  fun _ _ => ⟨⟨rfl, .refl _ _⟩, trivial⟩

theorem quietly_reading (s : Surroundings σ) : Quietly closed (ask s.recording.reading) fun _ => True :=
  fun _ _ => ⟨⟨rfl, .refl _ _⟩, trivial⟩

def Recorded (request : σ × List Exchange → α × (σ × List Exchange)) : Prop :=
  ∀ world, ∃ exchange : Exchange, exchange.isStatement ∧ (request world).2.2 = world.2 ++ [exchange]

theorem quietly_ask {request : σ × List Exchange → α × (σ × List Exchange)} (recorded : Recorded request) :
    Quietly false (ask request) fun _ => True := by
  intro scene same
  obtain ⟨exchange, statement, added⟩ := recorded scene.world
  refine ⟨⟨rfl, [exchange], added, ?_, ?_⟩, trivial⟩
  · simpa using statement
  · simp [same]

/-- A statement is recorded unless the unit of work is closed, and then fails for that. -/
theorem yields_send (s : Surroundings σ) (statement : Statement)
    {request : σ × List Exchange → Reply α × (σ × List Exchange)} (recorded : Recorded request) :
    Yields closed (send s.recording statement request) fun _ => True := by
  refine Yields.bind yields_get fun scene same => ?_
  refine Yields.bind (Yields.ofAct (quietly_note s _)) fun _ _ => ?_
  cases closed with
  | true =>
    -- The request is not made, and the failure is the one that only a closed unit of work has.
    simp only [same, ↓reduceIte]
    exact Quietly.pure fun impossible => by cases impossible
  | false =>
    simp only [same, Bool.false_eq_true, ↓reduceIte]
    refine Yields.bind (Yields.ofAct (quietly_ask recorded)) fun reply _ => ?_
    exact (Yields.ofOutcome (Settles.unclosed (unclosed_ofReply _ reply))).mono fun _ _ => trivial

theorem yields_execute (s : Surroundings σ) (statement : Statement) :
    Yields closed (execute s.recording statement) fun _ => True :=
  yields_send s statement fun _ => ⟨_, rfl, rfl⟩

theorem yields_executeAll (s : Surroundings σ) (statements : List Statement) :
    Yields closed (executeAll s.recording statements) fun _ => True := by
  induction statements with
  | nil => exact Yields.pure trivial
  | cons statement rest ih =>
    exact Yields.bind (yields_execute s statement) fun _ _ => Yields.bind ih fun _ _ => Yields.pure trivial

theorem yields_fetch (s : Surroundings σ) (statement : Statement) :
    Yields closed (send s.recording statement (s.recording.fetch statement)) fun _ => True :=
  yields_send s statement fun _ => ⟨_, rfl, rfl⟩

theorem yields_unclosed {outcome : Outcome α} (unclosed : Unclosed outcome) :
    Yields closed (liftM outcome : Attempt (σ × List Exchange) α) fun value => outcome = .ok value :=
  Yields.ofOutcome (Settles.unclosed unclosed)

theorem yields_fetchAll (s : Surroundings σ) (statement : Statement) :
    Yields closed (fetchAll s.recording statement) fun _ => True := by
  refine Yields.bind (yields_fetch s statement) fun rows _ => ?_
  exact (yields_unclosed (.mapM unclosed_readable rows)).mono fun _ _ => trivial

theorem yields_fetchFirst (s : Surroundings σ) (statement : Statement) :
    Yields closed (fetchFirst s.recording statement) fun _ => True := by
  refine Yields.bind (yields_fetch s statement) fun rows _ => ?_
  cases rows with
  | nil => exact Yields.pure trivial
  | cons row rest =>
    exact Yields.bind (yields_unclosed (unclosed_readable row)) fun _ _ => Yields.pure trivial

/-- What follows may rely on the scene that is read being the one it starts in. -/
theorem Yields.get_bind {next : Scene (σ × List Exchange) → Attempt (σ × List Exchange) α} {result : α → Prop}
    (each : ∀ scene, scene.work.isClosed = closed →
      Quiet scene ((next scene).run scene).2 ∧ Settles closed result ((next scene).run scene).1) :
    Yields closed (get >>= next) result :=
  each

theorem yields_freshKey (s : Surroundings σ) (metadata : Metadata) :
    Yields closed (freshKey s.recording metadata) fun key => ∃ fresh, key = keyValue metadata.keyKind fresh := by
  refine Yields.bind (Yields.ofAct (quietly_reading s)) fun reading _ => Yields.get_bind fun scene same => ?_
  have unclosed := unclosed_next reading scene.work.options.node scene.keys
  generalize scene.keys.next reading scene.work.options.node = drawn at unclosed ⊢
  cases drawn with
  | error failure => exact ⟨.refl scene, .failed unclosed⟩
  | ok found => exact ⟨⟨rfl, .refl _ _⟩, found.1, rfl⟩

/-- The record that an object is saved as: its own, with a fresh key if it had none. -/
def SavedAs (metadata : Metadata) (model : Model α) (object : α) (record : Record) : Prop :=
  ∃ plain key, metadata.encode model object = .ok plain ∧ metadata.keyOf plain = .ok key ∧
    if key.isZero then ∃ fresh, record = metadata.setKey plain (keyValue metadata.keyKind fresh) else record = plain

theorem yields_keyed (s : Surroundings σ) (metadata : Metadata) (model : Model α) (object : α) :
    Yields closed (keyed s.recording metadata model object) fun result => SavedAs metadata model object result.1 := by
  refine Yields.bind (yields_unclosed (metadata.unclosed_encode model object)) fun plain encoded => ?_
  refine Yields.bind (yields_unclosed (metadata.unclosed_keyOf plain)) fun key found => ?_
  cases zero : key.isZero with
  | true =>
    simp only [↓reduceIte]
    refine Yields.bind (yields_freshKey s metadata) fun value ⟨fresh, same⟩ => ?_
    refine Yields.bind (yields_unclosed (metadata.unclosed_decode model _)) fun object _ => Yields.pure ?_
    exact ⟨plain, key, encoded, found, by simpa [zero] using ⟨fresh, by rw [same]⟩⟩
  | false =>
    simp only [Bool.false_eq_true, ↓reduceIte]
    exact Yields.pure ⟨plain, key, encoded, found, by simp [zero]⟩

theorem quietly_keyedAll (s : Surroundings σ) (metadata : Metadata) (model : Model α) (objects : List α) :
    Quietly closed (keyedAll s.recording metadata model objects) fun result =>
      Settles closed (List.Forall₂ (SavedAs metadata model) objects) result.1 := by
  induction objects with
  | nil => exact Quietly.pure List.Forall₂.nil
  | cons object rest ih =>
    refine Quietly.bind (yields_keyed s metadata model object) fun outcome settles => ?_
    cases outcome with
    | error failure => exact Quietly.pure settles
    | ok first =>
      refine Quietly.bind ih fun others settled => Quietly.pure ?_
      obtain ⟨records, objects⟩ := others
      cases records with
      | error failure => exact settled
      | ok records => exact List.Forall₂.cons settles settled

theorem quietly_prepareSave (s : Surroundings σ) (model : Model α) (objects : List α) :
    Quietly closed (prepareSave s.recording model objects) fun result =>
      Settles closed (fun (metadata, records) => s.registry.lookup model.name = .ok metadata ∧
        List.Forall₂ (SavedAs metadata model) objects records) result.1 := by
  have unclosed := unclosed_savable s.recording model objects
  unfold prepareSave
  cases looked : savable s.recording model objects with
  | error failure =>
    rw [looked] at unclosed
    exact Quietly.pure (.failed unclosed)
  | ok metadata =>
    obtain ⟨_, _, found⟩ := Outcome.bind_eq_ok.mp looked
    refine Quietly.bind (quietly_keyedAll s metadata model objects) fun result settles => Quietly.pure ?_
    obtain ⟨records, objects⟩ := result
    cases records with
    | error failure => exact settles
    | ok records => exact ⟨found, settles⟩

theorem quietly_warnUntouched (s : Surroundings σ) (operation : String) (metadata : Metadata) (rows : UInt64) :
    Quietly closed (warnUntouched s.recording operation metadata rows) fun _ => True := by
  unfold warnUntouched
  split
  · exact quietly_note s _
  · exact Quietly.pure trivial

theorem yields_countRows (s : Surroundings σ) (metadata : Option Metadata) (condition : Condition) :
    Yields closed (countRows s.recording metadata condition) fun _ => True := by
  refine Yields.bind yields_get fun scene _ => ?_
  refine Yields.bind (yields_unclosed (Statement.unclosed_count _ metadata condition)) fun statement _ => ?_
  refine Yields.bind (yields_fetchFirst s statement) fun row _ => ?_
  exact (yields_unclosed (unclosed_totalOf row)).mono fun _ _ => trivial

theorem yields_fetchOne (s : Surroundings σ) (model : Model α) (complex : Bool) (metadata : Metadata)
    (condition : Condition) : Yields closed (fetchOne s.recording model complex metadata condition) fun _ => True := by
  refine Yields.bind yields_get fun scene _ => ?_
  refine Yields.bind (yields_unclosed (unclosed_reading _ complex metadata condition)) fun statement _ => ?_
  refine Yields.bind (yields_fetchFirst s _) fun row _ => ?_
  cases row with
  | none => exact Yields.pure trivial
  | some row =>
    exact Yields.bind (yields_unclosed (metadata.unclosed_decodeRow model row)) fun _ _ => Yields.pure trivial

theorem yields_fetchObjects (s : Surroundings σ) (model : Model α) (metadata : Metadata) (statement : Statement) :
    Yields closed (fetchObjects s.recording model metadata statement) fun _ => True := by
  refine Yields.bind (yields_fetchAll s statement) fun rows _ => ?_
  exact (yields_unclosed (.mapM (metadata.unclosed_decodeRow model) rows)).mono fun _ _ => trivial

theorem quietly_totalFor (s : Surroundings σ) (complex : Bool) (metadata : Metadata) (condition : Condition) :
    Quietly closed (totalFor s.recording complex metadata condition) fun result =>
      Settles closed (fun _ => True) result.1 := by
  unfold totalFor
  split
  · exact Quietly.pure trivial
  · refine Quietly.bind (yields_countRows s _ condition) fun outcome settles => ?_
    cases outcome with
    | ok total => exact Quietly.pure trivial
    | error failure => exact Quietly.pure settles

theorem quietly_fetchPage (s : Surroundings σ) (model : Model α) (complex : Bool) (metadata : Metadata)
    (condition : Condition) (statement : Statement) (plan : PagePlan) :
    Quietly closed (fetchPage s.recording model complex metadata condition statement plan) fun result =>
      Settles closed (fun _ => True) result.1 := by
  have page (condition : Condition) :
      Quietly closed (do return (← (fetchObjects s.recording model metadata (statement.paginate plan)).run, condition))
        fun result => Settles closed (fun _ => True) result.1 :=
    Quietly.bind (yields_fetchObjects s model metadata (statement.paginate plan)) fun _ settles => Quietly.pure settles
  refine Quietly.bind quietly_get fun scene _ => ?_
  split
  · refine Quietly.bind (quietly_totalFor s complex metadata condition) fun total settles => ?_
    obtain ⟨outcome, condition⟩ := total
    cases outcome with
    | error failure => exact Quietly.pure settles
    | ok total =>
      dsimp only
      split
      · exact page condition
      · exact Quietly.pure trivial
  · exact page condition

theorem quietly_fetchList (s : Surroundings σ) (model : Model α) (complex : Bool) (metadata : Metadata)
    (condition : Condition) :
    Quietly closed (fetchList s.recording model complex metadata condition) fun result =>
      Settles closed (fun _ => True) result.1 := by
  refine Quietly.bind quietly_get fun scene _ => ?_
  have unclosed := unclosed_reading scene.work.options.database complex metadata condition
  cases made : reading scene.work.options.database complex metadata condition with
  | error failure =>
    rw [made] at unclosed
    exact Quietly.pure (.failed unclosed)
  | ok statement =>
    dsimp only
    split
    · exact Quietly.bind (yields_fetchObjects s model metadata statement) fun _ settles => Quietly.pure settles
    · exact quietly_fetchPage s model complex metadata condition statement _

end

end RecordMapper.Work
