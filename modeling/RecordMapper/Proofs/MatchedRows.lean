import RecordMapper.Proofs.PagedReads

/-! The rows that a condition matches, over a database that does not change. Some steps of building a condition leave them
alone, and what counts and lists store as its total is their number. -/

namespace RecordMapper

/-- Surroundings with a database that does not change at all. It has no rows for queries that it does not know, and its rows
can be counted in 64 bits. -/
structure Surroundings.Settled (s : Surroundings σ) (state : σ → Prop) (result : Query → Option (List Row)) : Prop
    extends s.Answers state result where
  fetch (statement : Statement) {world : σ} (kept : state world) : state (s.fetch statement world).2
  unknown {statement : Statement} {query : Query} (counted : statement.counted? = some query) (none_ : result query = none)
    {world : σ} (kept : state world) (rows : List Row) : (s.fetch statement world).1 ≠ .done rows
  bounded {query : Query} {rows : List Row} (known : result query = some rows) : rows.length < Word.signedBound

namespace Formula

mutual
theorem ofPredicate_unrendered : ∀ {predicate : Predicate}, predicate.renders = false → ofPredicate predicate = .ok none
  | .compare _ _, nothing => by cases nothing
  | .any branches, nothing => by
    rw [ofPredicate_any_eq, ofBranches_unrendered nothing]
    rfl

theorem ofPredicates_unrendered : ∀ {predicates : List Predicate}, Predicate.listRenders predicates = false →
    ofPredicates predicates = .ok []
  | [], _ => rfl
  | predicate :: rest, nothing => by
    obtain ⟨here, later⟩ := Bool.or_eq_false_iff.mp nothing
    rw [ofPredicates_cons_eq, ofPredicate_unrendered here, ofPredicates_unrendered later]
    rfl

theorem ofBranches_unrendered : ∀ {branches : List (List Predicate)}, Predicate.branchesRender branches = false →
    ofBranches branches = .ok []
  | [], _ => rfl
  | branch :: rest, nothing => by
    obtain ⟨here, later⟩ := Bool.or_eq_false_iff.mp nothing
    rw [ofBranches_cons_eq, ofPredicates_unrendered here, ofBranches_unrendered later]
    rfl
end

theorem ofPredicates_append_unrendered {predicate : Predicate} (nothing : predicate.renders = false)
    (predicates : List Predicate) : ofPredicates (predicates ++ [predicate]) = ofPredicates predicates := by
  induction predicates with
  | nil => exact ofPredicates_unrendered (Bool.or_eq_false_iff.mpr ⟨nothing, rfl⟩)
  | cons first rest ih => rw [List.cons_append, ofPredicates_cons_eq, ofPredicates_cons_eq, ih]

end Formula

theorem Statement.counted_of_count {database : Option String} {metadata : Option Metadata} {condition : Condition}
    {statement : Statement} (made : count database metadata condition = .ok statement) :
    ∃ query, statement.counted? = some query := by
  obtain ⟨filter, groups, _, _, ⟨_, _, source, _, rfl⟩ | ⟨_, table, _, rfl⟩⟩ := count_eq_ok.mp made
  · exact ⟨_, rfl⟩
  · split <;> exact ⟨_, rfl⟩

namespace Condition.Step

/-- Steps that callers can make; a total is stored by counting alone. -/
def isCall : Step → Bool
  | .counted _ => false
  | _ => true

/-- Whether a step leaves the rows alone that a condition matches. -/
def sparesRows (condition : Condition) : Step → Bool
  | .test .. | .source .. | .counted _ => false
  | .either branches => !Predicate.branchesRender (branches.map Condition.predicates)
  | .groupBy keys => keys.isEmpty
  | .project _ | .join .. => !condition.isComplex
  | .orderBy .. | .page .. | .offset .. | .upset .. => true

end Condition.Step

namespace Work

/-- The model in whose table the rows of a condition are counted, unless it has a source of its own. -/
def countedModel (s : Surroundings σ) (condition : Condition) : Outcome (Option Metadata) :=
  if condition.isComplex then .ok none else (boundModel s "count" condition).map some

/-- The statement that counts what a condition matches. -/
def countStatement (s : Surroundings σ) (database : Option String) (condition : Condition) : Outcome Statement := do
  let metadata ← countedModel s condition
  Statement.count database metadata condition

/-- A condition matches so many rows as it stands, or so many groups. -/
def Matches (s : Surroundings σ) (result : Query → Option (List Row)) (database : Option String) (condition : Condition)
    (number : Nat) : Prop :=
  ∃ statement query rows, countStatement s database condition = .ok statement ∧ statement.counted? = some query ∧
    result query = some rows ∧ rows.length = number

/-- What a read leaves of its condition: the same condition, or one that holds the number of its rows. -/
def Counted (s : Surroundings σ) (result : Query → Option (List Row)) (database : Option String)
    (condition later : Condition) : Prop :=
  later = condition ∨ ∃ total, later = condition.setTotal total ∧ Matches s result database condition total.toNat

/-- What is counted depends on the model, the predicates, the groups and the source alone, and over a source of its own on the
fields and the join. -/
theorem countStatement_congr (s : Surroundings σ) (database : Option String) {condition other : Condition}
    (model : other.model = condition.model) (filter : other.formulas = condition.formulas)
    (groups : other.groups = condition.groups) (source : other.source = condition.source)
    (own : condition.isComplex = false ∨ other.fields = condition.fields ∧ other.join = condition.join) :
    countStatement s database other = countStatement s database condition := by
  have complex : other.isComplex = condition.isComplex := congrArg Option.isSome source
  have bound : boundModel s "count" other = boundModel s "count" condition := by rw [boundModel, boundModel, model]
  have refs : other.groupRefs = condition.groupRefs := by rw [Condition.groupRefs, Condition.groupRefs, groups]
  simp only [countStatement, countedModel, Statement.count, complex, bound, filter, refs]
  rcases own with simple | ⟨fields, join⟩
  · simp only [simple, Bool.false_eq_true, ↓reduceIte]
  · simp only [Statement.complexSource, fields, source, join]

theorem countStatement_apply (s : Surroundings σ) (database : Option String) {condition : Condition} {step : Condition.Step}
    (spared : step.sparesRows condition = true) :
    countStatement s database (condition.apply step) = countStatement s database condition := by
  cases step with
  | test | source | counted => cases spared
  | orderBy | page | offset | upset => rfl
  | either branches =>
    refine countStatement_congr s database rfl ?_ rfl rfl (.inr ⟨rfl, rfl⟩)
    have nothing : (Predicate.any (branches.map Condition.predicates)).renders = false := by
      simpa [Condition.Step.sparesRows, Predicate.renders] using spared
    exact Formula.ofPredicates_append_unrendered nothing condition.predicates
  | groupBy keys =>
    obtain rfl : keys = [] := by simpa [Condition.Step.sparesRows] using spared
    exact countStatement_congr s database rfl rfl (List.append_nil _) rfl (.inr ⟨rfl, rfl⟩)
  | project | join =>
    refine countStatement_congr s database rfl rfl rfl rfl (.inl ?_)
    simpa [Condition.Step.sparesRows] using spared

theorem count_eq (s : Surroundings σ) (condition : Condition) :
    count s condition = (do
      let outcome ← recorded do
        let metadata ← (countedModel s condition : Outcome (Option Metadata))
        countRows s metadata condition
      match outcome with
      | .ok total => return (outcome, condition.setTotal total)
      | .error _ => return (outcome, condition) : Act σ (Outcome UInt64 × Condition)) := by
  rw [count, countedModel]
  cases condition.isComplex with
  | true => rfl
  | false => cases boundModel s "count" condition <;> rfl

theorem boundModel_of_modelFor {s : Surroundings σ} {model : Model α} {condition : Condition} {metadata : Metadata}
    (looked : modelFor s model condition = .ok metadata) {typeName : String} (bound : condition.model = some typeName)
    (operation : String) : boundModel s operation condition = .ok metadata := by
  simp only [modelFor, Outcome.bind_eq_ok, bound] at looked
  obtain ⟨found, registered, same⟩ := looked
  split at same
  next named =>
    cases same
    rw [boundModel, bound, named]
    unfold Registry.lookup at registered ⊢
    cases listed : s.registry.find? model.name with
    | none =>
      rw [listed] at registered
      cases registered
    | some other =>
      rw [listed] at registered
      cases registered
      have name : metadata.typeName = model.name := by simpa using List.find?_some listed
      simp only [name, listed]
  next => cases same

theorem countStatement_of_reading {s : Surroundings σ} {model : Model α} {condition : Condition} {metadata : Metadata}
    (looked : modelFor s model condition = .ok metadata) {typeName : String} (bound : condition.model = some typeName)
    {database : Option String} {complex : Bool} {statement : Statement}
    (made : reading database complex metadata condition = .ok statement) :
    countStatement s database condition = Statement.count database (if complex then none else some metadata) condition := by
  cases own : condition.isComplex with
  | true => simp [countStatement, countedModel, Statement.count, own, bind, Except.bind]
  | false =>
    have simple : complex = false := by
      cases complex with
      | false => rfl
      | true =>
        obtain ⟨_, _, _, _, _, from_, _⟩ := Statement.selectComplex_eq_ok.mp made
        rw [Statement.isComplex_of_source from_] at own
        cases own
    have model := boundModel_of_modelFor looked bound "count"
    simp only [countStatement, countedModel, own, simple, model]
    rfl

theorem totalFor_total (s : Surroundings σ) (complex : Bool) (metadata : Metadata) (condition : Condition) (scene : Scene σ) :
    (totalFor s complex metadata condition scene).1.2 = condition ∨
      ∃ total, ((countRows s (if complex then none else some metadata) condition).run scene).1 = .ok total ∧
        (totalFor s complex metadata condition scene).1.2 = condition.setTotal total := by
  rw [totalFor]
  cases condition.paging.total with
  | some total => exact .inl rfl
  | none =>
    simp only [act_bind]
    generalize ((countRows s (if complex then none else some metadata) condition).run scene) = reached
    obtain ⟨outcome, later⟩ := reached
    cases outcome with
    | error failure => exact .inl rfl
    | ok total => exact .inr ⟨total, rfl, rfl⟩

theorem fetchPage_total (s : Surroundings σ) (model : Model α) (complex : Bool) (metadata : Metadata)
    (condition : Condition) (statement : Statement) (plan : PagePlan) (scene : Scene σ) :
    (fetchPage s model complex metadata condition statement plan scene).1.2 = condition ∨
      (fetchPage s model complex metadata condition statement plan scene).1.2 =
        (totalFor s complex metadata condition scene).1.2 := by
  simp only [fetchPage, act_bind, act_get]
  rcases Bool.eq_false_or_eq_true scene.work.dialect.countsFirst with counts | counts
  · right
    simp only [counts, ↓reduceIte, act_bind]
    generalize totalFor s complex metadata condition scene = reached
    obtain ⟨⟨outcome, left⟩, later⟩ := reached
    cases outcome with
    | error failure => rfl
    | ok total => cases inside : plan.within total <;> simp only [inside] <;> rfl
  · left
    simp only [counts, Bool.false_eq_true, ↓reduceIte]
    rfl

/-- A list keeps its condition or gives it the total that it has counted. -/
theorem fetchList_total (s : Surroundings σ) (model : Model α) (complex : Bool) (metadata : Metadata)
    (condition : Condition) (scene : Scene σ) :
    (fetchList s model complex metadata condition scene).1.2 = condition ∨
      ∃ total statement, reading scene.work.options.database complex metadata condition = .ok statement ∧
        ((countRows s (if complex then none else some metadata) condition).run scene).1 = .ok total ∧
        (fetchList s model complex metadata condition scene).1.2 = condition.setTotal total := by
  simp only [fetchList, act_bind, act_get]
  cases made : reading scene.work.options.database complex metadata condition with
  | error failure => exact .inl rfl
  | ok statement =>
    cases condition.paging.plan? with
    | none => exact .inl rfl
    | some plan =>
      rcases fetchPage_total s model complex metadata condition statement plan scene with same | same
      · exact .inl same
      · rcases totalFor_total s complex metadata condition scene with kept | ⟨total, ran, counted⟩
        · exact .inl (same.trans kept)
        · exact .inr ⟨total, statement, rfl, ran, same.trans counted⟩

/-- An act that leaves the database and the options of the unit of work alone. -/
def Steady (state : σ → Prop) (act : Act σ α) : Prop :=
  ∀ scene, state scene.world → state (act scene).2.world ∧ (act scene).2.work.options = scene.work.options

section

variable {state : σ → Prop}

theorem Steady.pure (value : α) : Steady state (Pure.pure value : Act σ α) := fun _ kept => ⟨kept, rfl⟩

theorem Steady.get : Steady state (MonadState.get : Act σ (Scene σ)) := fun _ kept => ⟨kept, rfl⟩

theorem Steady.bind {act : Act σ α} {next : α → Act σ β} (first : Steady state act)
    (second : ∀ value, Steady state (next value)) : Steady state (act >>= next) := by
  intro scene kept
  obtain ⟨kept, options⟩ := first scene kept
  obtain ⟨later, same⟩ := second (act scene).1 (act scene).2 kept
  exact ⟨later, same.trans options⟩

theorem Steady.attempt {attempt : Attempt σ α} {next : α → Attempt σ β} (first : Steady state attempt.run)
    (second : ∀ value, Steady state (next value).run) : Steady state (attempt >>= next).run := by
  rw [ExceptT.run_bind]
  apply Steady.bind first
  intro outcome
  cases outcome with
  | ok value => exact second value
  | error failure => exact Steady.pure _

theorem Steady.outcome (outcome : Outcome α) : Steady state (liftM outcome : Attempt σ α).run := by
  intro scene kept
  rw [run_outcome]
  exact ⟨kept, rfl⟩

theorem Steady.recorded {attempt : Attempt σ α} (steady : Steady state attempt.run) : Steady state (recorded attempt) := by
  intro scene kept
  obtain ⟨kept, options⟩ := steady scene kept
  obtain ⟨errors, marked⟩ := marked_settings (attempt.run scene).1 (attempt.run scene).2.work
  rw [recorded_apply, marked]
  exact ⟨kept, options⟩

variable {s : Surroundings σ} {result : Query → Option (List Row)} (settled : s.Settled state result)
include settled

theorem steady_fetch (statement : Statement) : Steady state (send s statement (s.fetch statement)).run := by
  intro scene kept
  have noted : state (s.note (.sending scene.work.dialect statement) scene.world) := settled.note kept
  cases closed : scene.work.isClosed with
  | true =>
    rw [run_send_closed s closed]
    exact ⟨noted, rfl⟩
  | false =>
    rw [run_send s closed]
    exact ⟨settled.fetch statement noted, rfl⟩

theorem steady_countRows (metadata : Option Metadata) (condition : Condition) :
    Steady state (countRows s metadata condition).run := by
  refine .attempt .get fun scene => .attempt (.outcome _) fun statement => .attempt ?_ fun row => .outcome _
  refine .attempt (steady_fetch settled statement) fun rows => ?_
  cases rows with
  | nil => exact .pure _
  | cons row rest => exact .attempt (.outcome _) fun _ => .pure _

theorem steady_fetchObjects (model : Model α) (metadata : Metadata) (statement : Statement) :
    Steady state (fetchObjects s model metadata statement).run :=
  .attempt (.attempt (steady_fetch settled statement) fun _ => .outcome _) fun _ => .outcome _

theorem steady_totalFor (complex : Bool) (metadata : Metadata) (condition : Condition) :
    Steady state (totalFor s complex metadata condition) := by
  rw [totalFor]
  split
  · exact .pure _
  · refine .bind (steady_countRows settled _ condition) fun outcome => ?_
    cases outcome <;> exact .pure _

theorem steady_fetchList (model : Model α) (complex : Bool) (metadata : Metadata) (condition : Condition) :
    Steady state (fetchList s model complex metadata condition) := by
  refine .bind .get fun scene => ?_
  split
  · exact .pure _
  · split
    · exact .bind (steady_fetchObjects settled model metadata _) fun _ => .pure _
    · refine .bind .get fun scene => ?_
      split
      · refine .bind (steady_totalFor settled complex metadata condition) fun total => ?_
        split
        · exact .pure _
        · split
          · exact .bind (steady_fetchObjects settled model metadata _) fun _ => .pure _
          · exact .pure _
      · exact .bind (steady_fetchObjects settled model metadata _) fun _ => .pure _

theorem steady_findList (model : Model α) (complex : Bool) (condition : Condition) :
    Steady state (findList s model complex condition) := by
  rw [findList]
  split
  · exact .bind (.recorded (.pure _)) fun _ => .pure _
  · exact .bind (steady_fetchList settled model complex _ condition) fun _ => .bind (.recorded (.outcome _)) fun _ => .pure _

theorem steady_count (condition : Condition) : Steady state (count s condition) := by
  rw [count_eq]
  refine .bind (.recorded (.attempt (.outcome _) fun metadata => steady_countRows settled metadata condition)) fun outcome => ?_
  cases outcome <;> exact .pure _

/-- A count that succeeds is the number of rows of the query that it counts. -/
theorem counted_rows {metadata : Option Metadata} {condition : Condition} {scene : Scene σ} (kept : state scene.world)
    {total : UInt64} (ran : ((countRows s metadata condition).run scene).1 = .ok total) :
    ∃ statement query rows, Statement.count scene.work.options.database metadata condition = .ok statement ∧
      statement.counted? = some query ∧ result query = some rows ∧ rows.length = total.toNat := by
  have unfolded := ran
  rw [countRows, run_bind, run_get] at unfolded
  simp only [run_bind, run_outcome] at unfolded
  cases made : Statement.count scene.work.options.database metadata condition with
  | error failure =>
    rw [made] at unfolded
    cases unfolded
  | ok statement =>
    obtain ⟨query, counted⟩ := Statement.counted_of_count made
    have noted : state (s.note (.sending scene.work.dialect statement) scene.world) := settled.note kept
    simp only [made, fetchFirst, run_bind] at unfolded
    cases closed : scene.work.isClosed with
    | true =>
      rw [run_send_closed s closed] at unfolded
      cases unfolded
    | false =>
      cases known : result query with
      | none =>
        -- What is not known is never answered with rows.
        have unanswered := settled.unknown counted known noted
        rw [run_send s closed] at unfolded
        generalize s.fetch statement _ = answer at unanswered unfolded
        obtain ⟨reply, later⟩ := answer
        cases reply with
        | done rows => exact absurd rfl (unanswered rows)
        | refused | silent => cases unfolded
      | some rows =>
        have bound := settled.bounded known
        obtain ⟨_, counts, _⟩ := run_countRows s (fun _ _ kept => settled.note kept) closed kept made
          (counts_of_counted settled.toAnswers counted known) bound
        rw [counts] at ran
        cases ran
        have size : rows.length < UInt64.size := Nat.lt_trans bound (by decide)
        exact ⟨statement, query, rows, rfl, counted, known, (UInt64.toNat_ofNat_of_lt' size).symm⟩

theorem count_total {condition : Condition} {scene : Scene σ} (kept : state scene.world) :
    Counted s result scene.work.options.database condition (count s condition scene).1.2 := by
  rw [count_eq, act_bind, recorded_apply]
  simp only [run_bind, run_outcome]
  cases found : countedModel s condition with
  | error failure => exact .inl rfl
  | ok metadata =>
    dsimp only
    cases ran : ((countRows s metadata condition).run scene).1 with
    | error failure => exact .inl rfl
    | ok total =>
      obtain ⟨statement, query, rows, made, counted, known, size⟩ := counted_rows settled kept ran
      have whole : countStatement s scene.work.options.database condition = .ok statement := by
        rw [countStatement, found]
        exact made
      exact .inr ⟨total, rfl, statement, query, rows, whole, counted, known, size⟩

theorem findList_total (model : Model α) {complex : Bool} {condition : Condition} {typeName : String}
    (bound : condition.model = some typeName) {scene : Scene σ} (kept : state scene.world) :
    Counted s result scene.work.options.database condition (findList s model complex condition scene).1.2 := by
  cases looked : modelFor s model condition with
  | error failure => exact .inl (by simp only [findList, looked]; rfl)
  | ok metadata =>
    rw [findList_ok looked]
    rcases fetchList_total s model complex metadata condition scene with same | ⟨total, statement, made, ran, same⟩
    · exact .inl same
    · obtain ⟨counts, query, rows, counted, known, some_, size⟩ := counted_rows settled kept ran
      rw [← countStatement_of_reading looked bound made] at counted
      exact .inr ⟨total, same, counts, query, rows, counted, known, some_, size⟩

end

end Work

end RecordMapper
