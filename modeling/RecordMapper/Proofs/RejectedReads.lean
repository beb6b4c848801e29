import RecordMapper.Proofs.CallEffects
import RecordMapper.Proofs.RejectedWrites

/-! Reads that fail with a validation failure. Nothing was sent unless the failure is about an answer: a float in an
integer column that is no integer of 64 bits, or a count without a row. -/

namespace RecordMapper

/-- Failures of validation that only an answer gives rise to. -/
abbrev Answered (outcome : Outcome α) : Prop :=
  FailsOnly (fun failure => failure.isValidation → failure.aboutAnswer) outcome

theorem answered_integral (x : Double) : Answered (Cell.integral x) := by
  unfold Cell.integral
  split
  · split
    · exact .ok _
    · exact .error fun _ => rfl
  · exact .error fun _ => rfl

theorem answered_read (index : Nat) (kind : Kind) (cell : Cell) : Answered (cell.read index kind) := by
  unfold Cell.read
  split
  case h_3 => exact answered_integral _
  case h_11 => exact .error nofun
  all_goals exact .ok _

namespace Metadata

theorem answered_putCell (metadata : Metadata) (record : Record) (index : Nat) (column : String) (cell : Cell) :
    Answered (metadata.putCell record index column cell) := by
  unfold putCell
  split
  · exact .ok _
  · exact .bind (answered_read index _ cell) fun _ => .pure _

theorem answered_putCells (metadata : Metadata) (row : Row) (record : Record) (index : Nat) :
    Answered (metadata.putCells record index row) := by
  induction row generalizing record index with
  | nil => exact .ok _
  | cons first rest ih =>
    obtain ⟨column, cell⟩ := first
    exact .bind (metadata.answered_putCell record index column cell) fun record => ih record (index + 1)

/-- A row is read as an object of the model that its description was looked up for. -/
theorem answered_decodeRow {metadata : Metadata} {model : Model α} (same : metadata.checkModel model = .ok ())
    (row : Row) : Answered (metadata.decodeRow model row) := by
  apply FailsOnly.bind (metadata.answered_putCells row metadata.blank 0)
  intro record
  unfold decode
  rw [same]
  dsimp only [bind, Except.bind]
  split
  · exact .pure _
  · exact .error nofun

end Metadata

theorem Registry.checkModel_of_lookup {registry : Registry} {model : Model α} {metadata : Metadata}
    (found : registry.lookup model.name = .ok metadata) : metadata.checkModel model = .ok () := by
  have named := List.find?_some (Work.find_of_lookup found)
  rw [decide_eq_true_eq] at named
  unfold Metadata.checkModel
  rw [if_pos named.symm]

namespace Work

theorem checkModel_of_modelFor {s : Surroundings σ} {model : Model α} {condition : Condition} {metadata : Metadata}
    (found : modelFor s model condition = .ok metadata) : metadata.checkModel model = .ok () := by
  obtain ⟨other, looked, accepted⟩ := Outcome.bind_eq_ok.mp found
  split at accepted
  · cases accepted
    exact Registry.checkModel_of_lookup looked
  · split at accepted
    · cases accepted
      exact Registry.checkModel_of_lookup looked
    · cases accepted

theorem answered_totalOf (row : Option Row) : Answered (totalOf row) := by
  unfold totalOf
  split
  · exact .error fun _ => rfl
  · exact .error nofun
  · apply FailsOnly.bind (answered_read 0 .int _)
    intro value
    split <;> exact .pure _

/-- A part of a call that only looks at what is there, and the ways in which it can fail. -/
def Examines (allowed : Failure → Prop) (attempt : Attempt (σ × List Exchange) α) : Prop :=
  ∀ scene, (attempt.run scene).2 = scene ∧ FailsOnly allowed (attempt.run scene).1

section

variable {allowed : Failure → Prop}

theorem Examines.pure (value : α) : Examines allowed (Pure.pure value : Attempt (σ × List Exchange) α) :=
  fun _ => ⟨rfl, .ok _⟩

theorem Examines.ofOutcome {outcome : Outcome α} (fails : FailsOnly allowed outcome) :
    Examines allowed (liftM outcome : Attempt (σ × List Exchange) α) := by
  intro scene
  rw [run_outcome]
  exact ⟨rfl, fails⟩

theorem Examines.bind {attempt : Attempt (σ × List Exchange) α} {next : α → Attempt (σ × List Exchange) β}
    (first : Examines allowed attempt) (rest : ∀ value, Examines allowed (next value)) :
    Examines allowed (attempt >>= next) := by
  intro scene
  obtain ⟨same, fails⟩ := first scene
  rw [run_bind]
  generalize attempt.run scene = reached at same fails ⊢
  obtain ⟨outcome, later⟩ := reached
  obtain rfl : later = scene := same
  cases outcome with
  | ok value => exact rest value later
  | error failure => exact ⟨rfl, .error (fails failure rfl)⟩

end

/-- A part of a call that sends something or else does not fail by validation. -/
def Reaches (attempt : Attempt (σ × List Exchange) α) : Prop :=
  ∀ scene, match (attempt.run scene).1 with
    | .ok _ => Sent scene (attempt.run scene).2
    | .error failure => failure.isValidation = false

theorem reaches_fetch (s : Surroundings σ) (statement : Statement) :
    Reaches (send s.recording statement (s.recording.fetch statement)) := by
  intro scene
  have firm := firm_send s statement (s.recording.fetch statement) scene
  cases closed : scene.work.isClosed with
  | true =>
    rw [run_send_closed s.recording closed]
    rfl
  | false =>
    rw [run_send s.recording closed] at firm ⊢
    have added : (s.recording.fetch statement
        (s.recording.note (.sending scene.work.dialect statement) scene.world)).2.2 = scene.world.2 ++ [_] := rfl
    generalize s.recording.fetch statement _ = reached at added firm ⊢
    obtain ⟨reply, later⟩ := reached
    cases reply with
    | done rows => exact ⟨_, [], added⟩
    | refused text => exact firm _ rfl
    | silent => exact firm _ rfl

theorem Reaches.bind {attempt : Attempt (σ × List Exchange) α} {next : α → Attempt (σ × List Exchange) β}
    (first : Reaches attempt) (rest : ∀ value, Examines (fun failure => failure.isValidation = false) (next value)) :
    Reaches (attempt >>= next) := by
  intro scene
  have reached := first scene
  rw [run_bind]
  generalize attempt.run scene = middle at reached ⊢
  obtain ⟨outcome, later⟩ := middle
  cases outcome with
  | error failure => exact reached
  | ok value =>
    obtain ⟨same, fails⟩ := rest value later
    dsimp only at reached ⊢
    generalize (next value).run later = ended at same fails ⊢
    obtain ⟨outcome, after⟩ := ended
    obtain rfl : after = later := same
    cases outcome with
    | ok result => exact reached
    | error failure => exact fails failure rfl

theorem firm_readable (row : Row) : FailsOnly (fun failure => failure.isValidation = false) (readable row) := by
  unfold readable
  split
  · exact .ok _
  · exact .error rfl

theorem reaches_fetchFirst (s : Surroundings σ) (statement : Statement) :
    Reaches (fetchFirst s.recording statement) := by
  apply Reaches.bind (reaches_fetch s statement)
  intro rows
  cases rows with
  | nil => exact .pure _
  | cons row rest => exact .bind (.ofOutcome (firm_readable row)) fun _ => .pure _

theorem reaches_fetchAll (s : Surroundings σ) (statement : Statement) :
    Reaches (fetchAll s.recording statement) := by
  apply Reaches.bind (reaches_fetch s statement)
  exact fun rows => .ofOutcome (.mapM firm_readable rows)

theorem Sent.changed {before after : Scene (σ × List Exchange)} (sent : Sent before after) :
    after.world.2 ≠ before.world.2 := by
  obtain ⟨exchange, rest, added⟩ := sent
  simp [added]

theorem Sent.from {before middle after : Scene (σ × List Exchange)} {early : List Exchange}
    (added : middle.world.2 = before.world.2 ++ early) (sent : Sent middle after) : Sent before after := by
  obtain ⟨exchange, rest, appended⟩ := sent
  rw [added, List.append_assoc] at appended
  cases early with
  | nil => exact ⟨exchange, rest, appended⟩
  | cons first others => exact ⟨first, others ++ exchange :: rest, appended⟩

/-- Where a validation failure stands: before anything is sent, or after that if it is about an answer. -/
def Places (act : Act (σ × List Exchange) β) (outcome : β → Outcome α) : Prop :=
  ∀ scene failure, outcome (act scene).1 = .error failure → failure.isValidation →
    ((act scene).2.world.2 = scene.world.2 ↔ failure.aboutAnswer = false)

/-- A validation failure is about an answer there. -/
def Reviews (act : Act (σ × List Exchange) β) (outcome : β → Outcome α) : Prop :=
  ∀ scene failure, outcome (act scene).1 = .error failure → failure.isValidation →
    failure.aboutAnswer ∧ Sent scene (act scene).2

theorem Reviews.places {act : Act (σ × List Exchange) β} {outcome : β → Outcome α} (reviews : Reviews act outcome) :
    Places act outcome := by
  intro scene failure failed rejected
  obtain ⟨about, sent⟩ := reviews scene failure failed rejected
  exact iff_of_false sent.changed (by simp [about])

theorem Reaches.reviews {attempt : Attempt (σ × List Exchange) α} {next : α → Attempt (σ × List Exchange) β}
    (first : Reaches attempt)
    (rest : ∀ value, Examines (fun failure => failure.isValidation → failure.aboutAnswer) (next value)) :
    Reviews (attempt >>= next).run id := by
  intro scene failure failed rejected
  have reached := first scene
  rw [run_bind] at failed ⊢
  generalize attempt.run scene = middle at reached failed ⊢
  obtain ⟨outcome, later⟩ := middle
  cases outcome with
  | error other =>
    cases failed
    dsimp only at reached
    rw [reached] at rejected
    cases rejected
  | ok value =>
    obtain ⟨same, fails⟩ := rest value later
    dsimp only at reached failed ⊢
    rw [same]
    exact ⟨fails failure failed rejected, reached⟩

theorem Places.prepare {outcome : Outcome α} {next : α → Attempt (σ × List Exchange) β} (prepared : Prepares outcome)
    (rest : ∀ value, outcome = .ok value → Places (next value).run id) :
    Places ((liftM outcome : Attempt (σ × List Exchange) α) >>= next).run id := by
  intro scene failure failed rejected
  rw [run_bind, run_outcome] at failed ⊢
  cases outcome with
  | ok value => exact rest value rfl scene failure failed rejected
  | error cause =>
    cases failed
    exact iff_of_true rfl (prepared _ rfl).2

theorem places_get {next : Scene (σ × List Exchange) → Attempt (σ × List Exchange) α}
    (each : ∀ scene, Places (next scene).run id) : Places (get >>= next).run id :=
  fun scene => each scene scene

theorem Places.map {act : Act (σ × List Exchange) α} {middle : α → Outcome γ} {outcome : β → Outcome δ}
    (places : Places act middle) (result : α → β)
    (fails : ∀ value failure, outcome (result value) = .error failure → middle value = .error failure) :
    Places (do return result (← act)) outcome :=
  fun scene failure failed => places scene failure (fails _ failure failed)

theorem Reviews.map {act : Act (σ × List Exchange) α} {middle : α → Outcome γ} {outcome : β → Outcome δ}
    (reviews : Reviews act middle) (result : α → β)
    (fails : ∀ value failure, outcome (result value) = .error failure → middle value = .error failure) :
    Reviews (do return result (← act)) outcome :=
  fun scene failure failed => reviews scene failure (fails _ failure failed)

theorem map_eq_error {outcome : Outcome α} {result : α → β} {failure : Failure}
    (failed : outcome.map result = .error failure) : outcome = .error failure := by
  cases outcome with
  | ok value => cases failed
  | error cause =>
    cases failed
    rfl

theorem places_recorded {attempt : Attempt (σ × List Exchange) α} (places : Places attempt.run id) :
    Places (recorded attempt) id := by
  intro scene failure failed
  rw [recorded_apply] at failed ⊢
  exact places scene failure failed

theorem places_call {attempt : Attempt (σ × List Exchange) α} (places : Places attempt.run id) (result : α → β) :
    Places (do return (← recorded attempt).map result) id :=
  (places_recorded places).map (·.map result) fun _ _ => map_eq_error

theorem places_countRows (s : Surroundings σ) (metadata : Option Metadata) (condition : Condition) :
    Places (countRows s.recording metadata condition).run id := by
  apply places_get
  intro scene
  apply Places.prepare (Statement.prepared_count _ metadata condition)
  intro statement _
  apply Reviews.places
  apply Reaches.reviews (reaches_fetchFirst s statement)
  exact fun row => .ofOutcome (answered_totalOf row)

theorem places_fetchOne (s : Surroundings σ) {model : Model α} {metadata : Metadata} (complex : Bool)
    (condition : Condition) (same : metadata.checkModel model = .ok ()) :
    Places (fetchOne s.recording model complex metadata condition).run id := by
  apply places_get
  intro scene
  apply Places.prepare (prepared_reading _ complex metadata condition)
  intro statement _
  apply Reviews.places
  apply Reaches.reviews (reaches_fetchFirst s _)
  intro row
  cases row with
  | none => exact .pure _
  | some row => exact .bind (.ofOutcome (Metadata.answered_decodeRow same row)) fun _ => .pure _

theorem reviews_fetchObjects (s : Surroundings σ) {model : Model α} {metadata : Metadata}
    (same : metadata.checkModel model = .ok ()) (statement : Statement) :
    Reviews (fetchObjects s.recording model metadata statement).run id := by
  apply Reaches.reviews (reaches_fetchAll s statement)
  exact fun rows => .ofOutcome (.mapM (Metadata.answered_decodeRow same) rows)

theorem places_totalFor (s : Surroundings σ) (complex : Bool) (metadata : Metadata) (condition : Condition) :
    Places (totalFor s.recording complex metadata condition) Prod.fst := by
  unfold totalFor
  split
  · intro scene failure failed
    cases failed
  · intro scene failure failed rejected
    have places := places_countRows s (if complex then none else some metadata) condition scene
    rw [act_bind] at failed ⊢
    generalize (countRows s.recording _ condition).run scene = reached at places failed ⊢
    obtain ⟨outcome, later⟩ := reached
    cases outcome with
    | ok total => cases failed
    | error cause =>
      cases failed
      exact places _ rfl rejected

theorem reviews_page (s : Surroundings σ) {model : Model α} {metadata : Metadata}
    (same : metadata.checkModel model = .ok ()) (statement : Statement) (condition : Condition) :
    Reviews (do return (← (fetchObjects s.recording model metadata statement).run, condition)) Prod.fst :=
  (reviews_fetchObjects s same statement).map (·, condition) fun _ _ failed => failed

theorem places_fetchPage (s : Surroundings σ) {model : Model α} {metadata : Metadata} (complex : Bool)
    (condition : Condition) (same : metadata.checkModel model = .ok ()) (statement : Statement) (plan : PagePlan) :
    Places (fetchPage s.recording model complex metadata condition statement plan) Prod.fst := by
  have page := reviews_page s same (statement.paginate plan)
  intro scene
  unfold fetchPage
  rw [act_bind, act_get]
  split
  · intro failure failed rejected
    have places := places_totalFor s complex metadata condition scene
    obtain ⟨⟨_, sent, added, _⟩, _⟩ := quietly_totalFor s complex metadata condition scene rfl
    rw [act_bind] at failed ⊢
    generalize totalFor s.recording complex metadata condition scene = reached at places added failed ⊢
    obtain ⟨⟨outcome, counted⟩, later⟩ := reached
    cases outcome with
    | error cause =>
      cases failed
      exact places _ rfl rejected
    | ok total =>
      dsimp only at failed ⊢
      split at failed
      next within =>
        -- the rows may have been counted before, so the record has grown even where the page is not read
        rw [if_pos within]
        obtain ⟨about, read⟩ := page counted later failure failed rejected
        exact iff_of_false (read.from added).changed (by simp [about])
      next => cases failed
  · exact (page condition).places scene

theorem places_fetchList (s : Surroundings σ) {model : Model α} {metadata : Metadata} (complex : Bool)
    (condition : Condition) (same : metadata.checkModel model = .ok ()) :
    Places (fetchList s.recording model complex metadata condition) Prod.fst := by
  intro scene
  have prepared := prepared_reading scene.work.options.database complex metadata condition
  unfold fetchList
  rw [act_bind, act_get]
  dsimp only
  cases made : reading scene.work.options.database complex metadata condition with
  | error cause =>
    intro failure failed _
    cases failed
    exact iff_of_true rfl (prepared _ made).2
  | ok statement =>
    dsimp only
    cases condition.paging.plan? with
    | none => exact (reviews_page s same statement condition).places scene
    | some plan => exact places_fetchPage s complex condition same statement plan scene

theorem places_findById (s : Surroundings σ) (model : Model α) (object : α) :
    Places ((Call.findById model object).perform s.recording) id := by
  simp only [Call.perform, Work.findById, bind_assoc, pure_bind, found_map]
  apply places_call
  apply Places.prepare (prepared_lookup s.registry model.name)
  intro metadata found
  apply Places.prepare (metadata.prepared_encode model object)
  intro record _
  apply Places.prepare (metadata.prepared_keyOf record)
  intro key _
  split
  · intro scene failure failed _
    cases failed
    exact iff_of_true rfl rfl
  · exact places_fetchOne s false _ (Registry.checkModel_of_lookup found)

theorem places_findOne (s : Surroundings σ) (model : Model α) (complex : Bool) (condition : Condition) (object : α) :
    Places ((Call.findOne model complex condition object).perform s.recording) id := by
  simp only [Call.perform, Work.findOne, bind_assoc, pure_bind, found_map]
  apply places_call
  apply Places.prepare (prepared_modelFor s.recording model condition)
  exact fun metadata found => places_fetchOne s complex condition (checkModel_of_modelFor found)

theorem places_findList (s : Surroundings σ) (model : Model α) (complex : Bool) (condition : Condition) :
    Places ((Call.findList model complex condition).perform s.recording) id := by
  have prepared := prepared_modelFor s.recording model condition
  simp only [Call.perform, Work.findList]
  cases looked : modelFor s.recording model condition with
  | error cause =>
    simp only [bind_assoc, pure_bind]
    apply places_call
    intro scene failure failed _
    cases failed
    exact iff_of_true rfl (prepared _ looked).2
  | ok metadata =>
    simp only [bind_assoc, pure_bind]
    intro scene failure failed
    have places := places_fetchList s complex condition (checkModel_of_modelFor looked) scene failure
    rw [act_bind] at failed ⊢
    generalize fetchList s.recording model complex metadata condition scene = reached at places failed ⊢
    obtain ⟨⟨outcome, counted⟩, later⟩ := reached
    dsimp only at failed ⊢
    rw [act_bind, recorded_apply, run_outcome] at failed ⊢
    exact places (map_eq_error failed)

theorem places_count (s : Surroundings σ) (condition : Condition) :
    Places ((Call.count condition).perform s.recording) id := by
  have counts : Places (do
      let metadata ← if condition.isComplex then pure none else some <$> boundModel s.recording "count" condition
      countRows s.recording metadata condition : Attempt (σ × List Exchange) UInt64).run id := by
    split
    · exact places_countRows s none condition
    · rw [map_eq_pure_bind, bind_assoc]
      apply Places.prepare (prepared_boundModel s.recording _ condition)
      intro metadata _
      rw [pure_bind]
      exact places_countRows s (some metadata) condition
  simp only [Call.perform, Work.count, bind_assoc]
  intro scene failure failed
  have places := places_recorded counts scene failure
  rw [act_bind] at failed ⊢
  generalize recorded _ scene = reached at places failed ⊢
  obtain ⟨outcome, later⟩ := reached
  cases outcome with
  | ok total => cases failed
  | error cause =>
    cases failed
    exact places rfl

theorem places_exists (s : Surroundings σ) (condition : Condition) :
    Places ((Call.exists? condition).perform s.recording) id := by
  apply places_call
  apply Places.prepare (prepared_boundModel s.recording _ condition)
  intro metadata _
  apply places_get
  intro scene
  apply Places.prepare (Statement.prepared_exists _ metadata condition)
  intro statement _
  apply Reviews.places
  apply Reaches.reviews (reaches_fetchFirst s statement)
  exact fun row => .pure _

def Call.isRead : Call → Bool
  | .findById .. | .findOne .. | .findList .. | .count _ | .exists? _ => true
  | _ => false

/-- A read that fails by validation has sent nothing, except if what fails is about an answer. -/
theorem rejected_read_sends_nothing (s : Surroundings σ) (call : Call) (reads : call.isRead = true)
    (scene : Scene (σ × List Exchange)) (failure : Failure)
    (failed : (call.perform s.recording scene).1 = .error failure) (rejected : failure.isValidation = true) :
    (call.perform s.recording scene).2.world.2 = scene.world.2 ↔
      failure ≠ .validation .noCountRow ∧ ∀ found, failure ≠ .validation (.fractionalInt found) := by
  have about : failure.aboutAnswer = false ↔
      failure ≠ .validation .noCountRow ∧ ∀ found, failure ≠ .validation (.fractionalInt found) := by
    unfold Failure.aboutAnswer
    split <;> simp_all
  rw [← about]
  cases call with
  | findById model object => exact places_findById s model object scene failure failed rejected
  | findOne model complex condition object =>
    exact places_findOne s model complex condition object scene failure failed rejected
  | findList model complex condition => exact places_findList s model complex condition scene failure failed rejected
  | count condition => exact places_count s condition scene failure failed rejected
  | exists? condition => exact places_exists s condition scene failure failed rejected
  | _ => cases reads

/-- A counter whose count is stored as one and a half. -/
def halfCounted : Surroundings Unit :=
  .ofResult ⟨[counterMetadata]⟩ fun _ => some [[("id", .int 1), ("count", .double ⟨0x3ff8000000000000⟩)]]

def findingCounter (id : Int) : Call := .findById counter (.fields [("id", .int id)])

def unread : Scene (Unit × List Exchange) := ⟨opened .mysql {} (.ofMilliseconds 1) .connection, ⟨0, []⟩, (), []⟩

/-- A counter is not looked for without its key. -/
theorem keyless_read_sends_nothing :
    (findingCounter 0).isRead = true ∧
    ((findingCounter 0).perform halfCounted.recording unread).1 = .error (.validation (.findWithoutKey "counter")) ∧
    Failure.isValidation (.validation (.findWithoutKey "counter")) = true ∧
    ((findingCounter 0).perform halfCounted.recording unread).2.world.2 = [] := by
  have failed : ((findingCounter 0).perform halfCounted.recording unread).1 =
    .error (.validation (.findWithoutKey "counter")) := by with_unfolding_all rfl
  exact ⟨rfl, failed, rfl,
    (rejected_read_sends_nothing halfCounted (findingCounter 0) rfl unread _ failed rfl).mpr ⟨nofun, nofun⟩⟩

/-- A fraction in an integer column is found only in the answer, and is a validation failure nevertheless. -/
theorem fraction_rejected_late :
    ∃ failure, ((findingCounter 1).perform halfCounted.recording unread).1 = .error failure ∧ failure.isValidation = true ∧
      ((findingCounter 1).perform halfCounted.recording unread).2.world.2 ≠ unread.world.2 := by
  have late : (match (findingCounter 1).perform halfCounted.recording unread with
    | (.error failure, later) => failure.isValidation && !later.world.2.isEmpty
    | (.ok _, _) => false) = true := by decide +kernel
  generalize (findingCounter 1).perform halfCounted.recording unread = answer at late ⊢
  obtain ⟨outcome, later⟩ := answer
  cases outcome with
  | ok value => cases late
  | error failure =>
    rw [Bool.and_eq_true, Bool.not_eq_true', List.isEmpty_eq_false_iff] at late
    exact ⟨failure, rfl, late.1, late.2⟩

end Work

end RecordMapper
