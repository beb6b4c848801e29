import RecordMapper.Proofs.MatchedRows

/-! Totals that conditions store. A total that has been counted stays the number of rows that the condition matches, and
lists trust it, as long as the condition is not built further in a way that changes those rows. -/

namespace RecordMapper

namespace Work

/-- What a condition is used for: it is built further, counted or listed by. -/
inductive Use : Type 1 where
  | build (step : Condition.Step)
  | count
  | list {α : Type} (model : Model α) (complex : Bool)

namespace Use

def perform (s : Surroundings σ) (condition : Condition) : Use → Act σ Condition
  | .build step => return condition.apply step
  | .count => do return (← Work.count s condition).2
  | .list model complex => do return (← findList s model complex condition).2

/-- A condition may be built further, but its rows must stay the same while it holds a total. -/
def spares (condition : Condition) : Use → Bool
  | .build step => step.isCall && (condition.paging.total.isNone || step.sparesRows condition)
  | .count | .list .. => true

end Use

def useAll (s : Surroundings σ) : List Use → Condition → Act σ Condition
  | [], condition => return condition
  | use :: rest, condition => do useAll s rest (← use.perform s condition)

/-- Uses none of which changes the rows of a total. -/
def Sparing (s : Surroundings σ) : List Use → Condition → Scene σ → Prop
  | [], _, _ => True
  | use :: rest, condition, scene =>
    use.spares condition = true ∧ Sparing s rest (use.perform s condition scene).1 (use.perform s condition scene).2

/-- A condition of a model whose total, if it holds one, is the number of rows that it matches. -/
structure Truthful (s : Surroundings σ) (result : Query → Option (List Row)) (database : Option String) (typeName : String)
    (condition : Condition) : Prop where
  bound : condition.model = some typeName
  total : ∀ total, condition.paging.total = some total → Matches s result database condition total.toNat

namespace Truthful

variable {s : Surroundings σ} {state : σ → Prop} {result : Query → Option (List Row)} {database : Option String}
  {typeName : String} {condition : Condition} (truthful : Truthful s result database typeName condition)
include truthful

theorem counted {later : Condition} (counted : Counted s result database condition later) :
    Truthful s result database typeName later := by
  obtain rfl | ⟨total, rfl, found⟩ := counted
  · exact truthful
  · refine ⟨truthful.bound, ?_⟩
    rintro _ ⟨⟩
    exact found

theorem apply {step : Condition.Step} (call : step.isCall = true)
    (spared : condition.paging.total = none ∨ step.sparesRows condition = true) :
    Truthful s result database typeName (condition.apply step) := by
  have model : (condition.apply step).model = condition.model := by cases step <;> rfl
  have same : (condition.apply step).paging.total = condition.paging.total := by
    cases step with
    | counted => cases call
    | _ => rfl
  refine ⟨model.trans truthful.bound, fun total stored => ?_⟩
  rw [same] at stored
  rcases spared with none_ | spared
  · cases none_.symm.trans stored
  · have counted := truthful.total total stored
    rwa [Matches, countStatement_apply s database spared]

/-- Every use that leaves the rows of a total alone keeps the total true. -/
theorem perform (settled : s.Settled state result) {use : Use} (spares : use.spares condition = true) {scene : Scene σ}
    (kept : state scene.world) (options : scene.work.options.database = database) :
    Truthful s result database typeName (use.perform s condition scene).1 := by
  subst options
  cases use with
  | build step =>
    obtain ⟨call, spared⟩ := Bool.and_eq_true_iff.mp spares
    exact truthful.apply call (by simpa using spared)
  | count => exact truthful.counted (count_total settled kept)
  | list model complex => exact truthful.counted (findList_total settled model truthful.bound kept)

end Truthful

theorem steady_perform {s : Surroundings σ} {state : σ → Prop} {result : Query → Option (List Row)}
    (settled : s.Settled state result) (condition : Condition) (use : Use) : Steady state (use.perform s condition) := by
  cases use with
  | build step => exact .pure _
  | count => exact .bind (steady_count settled condition) fun _ => .pure _
  | list model complex => exact .bind (steady_findList settled model complex condition) fun _ => .pure _

theorem truthful_useAll {s : Surroundings σ} {state : σ → Prop} {result : Query → Option (List Row)}
    (settled : s.Settled state result) {database : Option String} {typeName : String} {uses : List Use}
    {condition : Condition} (truthful : Truthful s result database typeName condition) {scene : Scene σ}
    (kept : state scene.world) (options : scene.work.options.database = database) (sparing : Sparing s uses condition scene) :
    Truthful s result database typeName (useAll s uses condition scene).1 ∧
      state (useAll s uses condition scene).2.world ∧ (useAll s uses condition scene).2.work.options.database = database := by
  induction uses generalizing condition scene with
  | nil => exact ⟨truthful, kept, options⟩
  | cons use rest ih =>
    obtain ⟨spares, sparing⟩ := sparing
    obtain ⟨later, same⟩ := steady_perform settled condition use scene kept
    rw [useAll, act_bind]
    exact ih (truthful.perform settled spares kept options) later ((congrArg WorkOptions.database same).trans options) sparing

theorem fetchList_known {s : Surroundings σ} {state : σ → Prop} {result : Query → Option (List Row)}
    (answers : s.Answers state result) (model : Model α) (metadata : Metadata) {query : Query} {rows : List Row}
    (known : result query = some rows) {scene : Scene σ} (unclosed : scene.work.isClosed = false) (kept : state scene.world)
    {complex : Bool} {condition : Condition} (counts : scene.work.dialect.countsFirst = true) {total : UInt64}
    (stored : condition.paging.total = some total) (size : rows.length = total.toNat)
    (made : reading scene.work.options.database complex metadata condition = .ok ⟨.select query, []⟩) :
    (fetchList s model complex metadata condition scene).1.1 =
      objectsOf model metadata (pageOf condition.paging.plan? rows) := by
  have page := fetchObjects_page answers model metadata known unclosed kept condition.paging.plan?
  simp only [fetchList, act_bind, act_get, made]
  cases asked : condition.paging.plan? with
  | none =>
    rw [asked] at page
    exact page
  | some plan =>
    rw [asked] at page
    have found : totalFor s complex metadata condition scene = ((.ok total, condition), scene) := by
      simp only [totalFor, stored]
      rfl
    simp only [fetchPage, act_bind, act_get, counts, ↓reduceIte, found]
    cases inside : plan.within total with
    | true => exact page
    | false =>
      have same : total = UInt64.ofNat rows.length := by rw [size, UInt64.ofNat_toNat]
      rw [same] at inside
      rw [pageOf_outside (size ▸ total.toNat_lt) inside]
      rfl

theorem objectsOf_eq_nil {model : Model α} {metadata : Metadata} {rows : List Row}
    (none_ : objectsOf model metadata rows = .ok []) : rows = [] := by
  simp only [objectsOf, Outcome.bind_eq_ok, Outcome.mapM_eq_ok] at none_
  obtain ⟨read, first, second⟩ := none_
  cases second
  cases first
  rfl

theorem fetchObjects_closed (s : Surroundings σ) (model : Model α) (metadata : Metadata) (statement : Statement)
    {scene : Scene σ} (closed : scene.work.isClosed = true) :
    ((fetchObjects s model metadata statement).run scene).1 = .error .closed := by
  simp only [fetchObjects, fetchAll, run_bind, run_send_closed s closed]

theorem countRows_closed (s : Surroundings σ) (metadata : Option Metadata) (condition : Condition) {scene : Scene σ}
    (closed : scene.work.isClosed = true) (total : UInt64) : ((countRows s metadata condition).run scene).1 ≠ .ok total := by
  rw [countRows, run_bind, run_get]
  simp only [run_bind, run_outcome]
  intro counted
  cases made : Statement.count scene.work.options.database metadata condition with
  | error failure =>
    rw [made] at counted
    cases counted
  | ok statement =>
    simp only [made, fetchFirst, run_bind, run_send_closed s closed] at counted
    cases counted

/-- The only list that a closed unit of work answers is that of a page beyond the total that the condition holds. -/
theorem fetchList_closed {s : Surroundings σ} {model : Model α} {complex : Bool} {metadata : Metadata} {condition : Condition}
    {scene : Scene σ} (closed : scene.work.isClosed = true) {objects : List α}
    (answered : (fetchList s model complex metadata condition scene).1.1 = .ok objects) :
    ∃ plan total, condition.paging.plan? = some plan ∧ condition.paging.total = some total ∧ plan.within total = false := by
  simp only [fetchList, act_bind, act_get] at answered
  cases made : reading scene.work.options.database complex metadata condition with
  | error failure =>
    rw [made] at answered
    cases answered
  | ok statement =>
    have refused (statement : Statement) {value : List α} :
        ((fetchObjects s model metadata statement).run scene).1 ≠ .ok value := by
      rw [fetchObjects_closed s model metadata statement closed]
      intro same
      cases same
    rw [made] at answered
    cases asked : condition.paging.plan? with
    | none =>
      rw [asked] at answered
      exact absurd answered (refused _)
    | some plan =>
      rw [asked] at answered
      simp only [fetchPage, act_bind, act_get] at answered
      rcases Bool.eq_false_or_eq_true scene.work.dialect.countsFirst with counts | counts
      · simp only [counts, ↓reduceIte, act_bind] at answered
        cases stored : condition.paging.total with
        | none =>
          have uncounted := countRows_closed s (if complex then none else some metadata) condition closed
          simp only [totalFor, stored, act_bind] at answered
          generalize (countRows s (if complex then none else some metadata) condition).run scene = reached
            at uncounted answered
          obtain ⟨outcome, later⟩ := reached
          cases outcome with
          | ok total => exact absurd rfl (uncounted total)
          | error failure => cases answered
        | some total =>
          have found : totalFor s complex metadata condition scene = ((.ok total, condition), scene) := by
            simp only [totalFor, stored]
            rfl
          rw [found] at answered
          cases inside : plan.within total with
          | true =>
            simp only [inside, ↓reduceIte] at answered
            exact absurd answered (refused _)
          | false => exact ⟨plan, total, rfl, rfl, inside⟩
      · simp only [counts, Bool.false_eq_true, ↓reduceIte] at answered
        exact absurd answered (refused _)

section

variable {s : Surroundings σ} {state : σ → Prop} {result : Query → Option (List Row)} (sized : Query.Sized result)
  {typeName : String} {condition : Condition} {database : Option String}
  (truthful : Truthful s result database typeName condition) {model : Model α} {metadata : Metadata}
  (looked : modelFor s model condition = .ok metadata) {complex : Bool} (own : complex = true ∨ condition.source = none)
  {query : Query} {rows : List Row} (known : result query = some rows)
include sized truthful looked own known

theorem Truthful.size (made : reading database complex metadata condition = .ok ⟨.select query, []⟩) {total : UInt64}
    (stored : condition.paging.total = some total) : rows.length = total.toNat := by
  obtain ⟨statement, counted, others, whole, counts, found, size⟩ := truthful.total total stored
  obtain ⟨again, same, ones, made_, counts_, found_, length⟩ := counted_of_reading sized own made known
  rw [countStatement_of_reading looked truthful.bound made, made_] at whole
  cases whole
  cases counts.symm.trans counts_
  cases found.symm.trans found_
  exact length.symm.trans size

/-- A list by a condition with a true total is the page, and it is never empty where the page has rows, not even after
closing. -/
theorem Truthful.list (settled : s.Settled state result) {scene : Scene σ} (kept : state scene.world)
    (options : scene.work.options.database = database)
    (made : reading database complex metadata condition = .ok ⟨.select query, []⟩) :
    (scene.work.isClosed = false →
      (findList s model complex condition scene).1.1 =
        objectsOf model metadata (pageOf condition.paging.plan? rows)) ∧
      ((findList s model complex condition scene).1.1 = .ok [] → pageOf condition.paging.plan? rows = []) := by
  subst options
  rw [findList_ok looked]
  have size {total : UInt64} (stored : condition.paging.total = some total) : rows.length = total.toNat :=
    truthful.size sized looked own known made stored
  have page (unclosed : scene.work.isClosed = false) : (fetchList s model complex metadata condition scene).1.1 =
      objectsOf model metadata (pageOf condition.paging.plan? rows) := by
    cases counts : scene.work.dialect.countsFirst with
    | false => exact fetchList_direct settled.toAnswers model metadata known unclosed kept counts made
    | true =>
      cases stored : condition.paging.total with
      | none =>
        exact (fetchList_counted settled.toAnswers sized model metadata known unclosed kept counts stored own
          (settled.bounded known) made).1
      | some total => exact fetchList_known settled.toAnswers model metadata known unclosed kept counts stored (size stored) made
  refine ⟨page, fun answered => ?_⟩
  cases closed : scene.work.isClosed with
  | false =>
    rw [page closed] at answered
    exact objectsOf_eq_nil answered
  | true =>
    obtain ⟨plan, total, asked, stored, outside⟩ := fetchList_closed closed answered
    have length := size stored
    have same : total = UInt64.ofNat rows.length := by rw [length, UInt64.ofNat_toNat]
    rw [same] at outside
    rw [asked, pageOf_outside (length ▸ total.toNat_lt) outside]

end

/-- A stored total stays true. However a condition of one model is built further, counted and listed by, as long as its rows
stay the same while it holds a total, a total that it holds is the number of rows that it matches, and a list by it is the
page of them, whether or not the total was known. -/
theorem stored_total_true {s : Surroundings σ} {state : σ → Prop} {result : Query → Option (List Row)}
    (settled : s.Settled state result) (sized : Query.Sized result) {typeName : String} {condition : Condition}
    (bound : condition.model = some typeName) (fresh : condition.paging.total = none) {uses : List Use} {scene : Scene σ}
    (kept : state scene.world) (sparing : Sparing s uses condition scene) :
    let database := scene.work.options.database
    let (reached, later) := useAll s uses condition scene
    (∀ total, reached.paging.total = some total → Matches s result database reached total.toNat) ∧
      ∀ {α : Type} (model : Model α) (complex : Bool) (metadata : Metadata) (query : Query) (rows : List Row),
        modelFor s model reached = .ok metadata → (complex = true ∨ reached.source = none) →
        reading database complex metadata reached = .ok ⟨.select query, []⟩ → result query = some rows →
          (later.work.isClosed = false →
            (findList s model complex reached later).1.1 = objectsOf model metadata (pageOf reached.paging.plan? rows)) ∧
          ((findList s model complex reached later).1.1 = .ok [] → pageOf reached.paging.plan? rows = []) := by
  have start : Truthful s result scene.work.options.database typeName condition := by
    refine ⟨bound, fun total stored => ?_⟩
    cases fresh.symm.trans stored
  obtain ⟨truthful, still, options⟩ := truthful_useAll settled start kept rfl sparing
  refine ⟨truthful.total, ?_⟩
  intro α model complex metadata query rows looked own made known
  exact truthful.list sized looked own known settled still options made

end Work

theorem Surroundings.settled_ofResult (registry : Registry) {result : Query → Option (List Row)}
    (bounded : ∀ query rows, result query = some rows → rows.length < Word.signedBound) :
    (ofResult registry result).Settled (fun _ => True) result where
  toAnswers := answers_ofResult registry result
  fetch _ _ _ := trivial
  unknown {statement query} counted none_ world _ rows := by
    unfold Statement.counted? at counted
    split at counted
    · cases counted
      simp [ofResult, none_]
    · cases counted
      simp [ofResult, none_]
    · cases counted
  bounded known := bounded _ _ known

/-- What a query over all tokens reads where it groups them: one token for each group. -/
def tokensGrouped (query : Query) : Option (List Row) :=
  let key (row : Row) : List Cell := query.groups.map fun group => (firstNamed? (group.parts.headD "") row).getD .null
  let kept := if query.groups.isEmpty then tokenRows else tokenRows.eraseDupsBy fun row other => key row = key other
  if query.source.table.name = "token" then
    some (kept.map fun row => query.items.map fun item => match item with
      | .column name => (name, (firstNamed? name row).getD .null)
      | .expression text => (text, .null)
      | .one => ("1", .int 1)
      | .oneAs label => (label, .int 1))
  else none

namespace Work

/-- Three tokens are counted, sorted and listed on their second page. -/
theorem second_page_known :
    let condition : Condition := { model := some "Token", paging := { number := 2, size := 2 } }
    let (reached, later) := useAll tokens [.count, .build (.orderBy "token" .asc)] condition (readingTokens .mysql)
    reached.paging.total = some 3 ∧ Matches tokens tokensRead none reached 3 ∧
      (findList tokens token false reached later).1.1 =
        .ok [.fields [("token", .text "c"), ("owner", .null), ("active", .bool true), ("blob", .list [.int 0]),
          ("cache", .text "")]] := by
  intro condition
  have bounded (query : Query) (rows : List Row) (known : tokensRead query = some rows) : rows.length < Word.signedBound := by
    unfold tokensRead at known
    split at known
    · cases known
      rw [List.length_map]
      decide
    · cases known
  have settled := Surroundings.settled_ofResult ⟨[tokenMetadata]⟩ bounded
  have bound : condition.model = some "Token" := rfl
  have sparing : Sparing tokens [.count, .build (.orderBy "token" .asc)] condition (readingTokens .mysql) :=
    ⟨rfl, rfl, trivial⟩
  obtain ⟨totals, lists⟩ := stored_total_true settled sized_tokensRead bound rfl trivial sparing
  obtain ⟨page, _⟩ := lists token false tokenMetadata _ _ rfl (.inr rfl) rfl rfl
  have asked : condition.paging.plan? = some ⟨2, 2⟩ := by decide
  have third := page rfl
  refine ⟨rfl, totals 3 rfl, third.trans ?_⟩
  exact (congrArg (fun plan => objectsOf token tokenMetadata (pageOf plan _)) asked).trans rfl

/-- Tokens of one owner are one group. When they are grouped by themselves too, the total stays, although there are three groups
now, and the second page is not read. -/
theorem regrouped_total_stale :
    let s := Surroundings.ofResult ⟨[tokenMetadata]⟩ tokensGrouped
    let condition : Condition := { model := some "Token", groups := ["owner"], paging := { number := 2, size := 1 } }
    let (reached, later) := useAll s [.count, .build (.groupBy ["token"])] condition (readingTokens .mysql)
    reached.paging.total = some 1 ∧ Matches s tokensGrouped none reached 3 ∧ ¬ Matches s tokensGrouped none reached 1 ∧
      (findList s token false reached later).1.1 = .ok [] ∧
      ∃ query rows, reading none false tokenMetadata reached = .ok ⟨.select query, []⟩ ∧ tokensGrouped query = some rows ∧
        pageOf reached.paging.plan? rows ≠ [] := by
  refine ⟨rfl, ⟨_, _, _, rfl, rfl, rfl, rfl⟩, ?_, rfl, _, _, rfl, rfl, by decide⟩
  rintro ⟨statement, query, rows, made, counted, known, size⟩
  cases made
  cases counted
  cases known
  cases size

end Work

end RecordMapper
