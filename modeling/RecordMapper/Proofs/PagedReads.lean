import RecordMapper.Proofs.Outcomes
import RecordMapper.Proofs.StoredObjects
import RecordMapper.Proofs.WorkCalls
import RecordMapper.Proofs.WorkEffects
import RecordMapper.Work.Reads

/-! Paged lists, read with and without a count before. The count is that of the rows which the list's own statement would
return without its page, as long as the condition has no source that this statement does not read. -/

namespace RecordMapper

/-- Surroundings with a database in a state that reads leave alone. A query has rows unless the database refuses it; a page is
a slice of them, and a count is their number. -/
structure Surroundings.Answers (s : Surroundings σ) (state : σ → Prop) (result : Query → Option (List Row)) : Prop where
  note {event : Event} {world : σ} (kept : state world) : state (s.note event world)
  select {query : Query} {rows : List Row} {world : σ} (kept : state world) (known : result query = some rows) :
    ∃ later, s.fetch ⟨.select query, []⟩ world = (.done rows, later) ∧ state later
  page {query : Query} {rows : List Row} {world : σ} (kept : state world) (known : result query = some rows)
    (plan : PagePlan) :
    ∃ later, s.fetch ⟨.select query, [plan]⟩ world =
      (.done ((rows.drop plan.offset.toNat).take plan.count.toNat), later) ∧ state later
  countResult {query : Query} {rows : List Row} {world : σ} (kept : state world) (known : result query = some rows) :
    ∃ later, s.fetch ⟨.countResult query, []⟩ world =
      (.done [[("COUNT(1)", .int (Int64.ofNat rows.length))]], later) ∧ state later
  countRows {source : RowSource} {filter : List Formula} {rows : List Row} {world : σ} (kept : state world)
    (known : result { items := [.one], source, filter } = some rows) :
    ∃ later, s.fetch ⟨.countRows source filter, []⟩ world =
      (.done [[("COUNT(1)", .int (Int64.ofNat rows.length))]], later) ∧ state later

/-- What does not change the number of a query's rows: their order, and which columns are read. -/
structure Query.Sized (result : Query → Option (List Row)) : Prop where
  sorts {query : Query} {rows : List Row} (known : result query = some rows) :
    ∃ others, result { query with sorts := [] } = some others ∧ others.length = rows.length
  items {query : Query} {rows : List Row} (columns : ∀ item ∈ query.items, ∃ name, item = .column name)
    (known : result query = some rows) (item : Item) (constant : item = .one ∨ ∃ label, item = .oneAs label) :
    ∃ others, result { query with items := [item] } = some others ∧ others.length = rows.length

/-- A page starts inside so many rows exactly if skipping to its start leaves some of them. -/
theorem PagePlan.within_iff (plan : PagePlan) {rows : List α} (bound : rows.length < UInt64.size) :
    plan.within (UInt64.ofNat rows.length) = true ↔ rows.drop plan.offset.toNat ≠ [] := by
  have size : (UInt64.ofNat rows.length).toNat = rows.length := UInt64.toNat_ofNat_of_lt' bound
  rw [within, Bool.and_eq_true, decide_eq_true_eq, decide_eq_true_eq, UInt64.lt_iff_toNat_lt, UInt64.lt_iff_toNat_lt, size,
    ne_eq, List.drop_eq_nil_iff]
  have zero : (0 : UInt64).toNat = 0 := rfl
  omega

namespace Statement

variable {database : Option String} {metadata : Metadata} {condition : Condition}

theorem readable_eq_ok {name : String} {item : Item} (made : readable metadata name = .ok item) : ∃ column, item = .column column := by
  unfold readable at made
  split at made
  · cases made
    exact ⟨_, rfl⟩
  · cases made

/-- A read of one table names columns alone. -/
theorem projection_columns {items : List Item} (made : projection metadata condition = .ok items) :
    ∀ item ∈ items, ∃ name, item = .column name := by
  unfold projection at made
  split at made
  · cases made
    simp
  · rw [Outcome.mapM_eq_ok] at made
    generalize condition.fields = fields at made
    induction made with
    | nil => simp
    | cons first _ ih => exact List.forall_mem_cons.mpr ⟨readable_eq_ok first, ih⟩

/-- The query whose rows a counting statement counts. -/
def counted? : Statement → Option Query
  | ⟨.countRows source filter, []⟩ => some { items := [.one], source, filter }
  | ⟨.countResult query, []⟩ => some query
  | _ => none

theorem isComplex_of_source {source : RowSource} (made : complexSource database condition = .ok source) :
    condition.isComplex = true := by
  obtain ⟨_, from_, _⟩ := complexSource_eq_ok.mp made
  rw [Condition.isComplex, from_, Option.isSome_some]

end Statement

namespace Work

/-- A counting statement is answered by a number. -/
def Counts (s : Surroundings σ) (state : σ → Prop) (statement : Statement) (count : Nat) : Prop :=
  ∀ world, state world → ∃ later,
    s.fetch statement world = (.done [[("COUNT(1)", .int (Int64.ofNat count))]], later) ∧ state later

theorem counts_of_counted {s : Surroundings σ} {state : σ → Prop} {result : Query → Option (List Row)}
    (answers : s.Answers state result) {statement : Statement} {query : Query} (counted : statement.counted? = some query)
    {rows : List Row} (known : result query = some rows) : Counts s state statement rows.length := by
  intro world kept
  unfold Statement.counted? at counted
  split at counted
  · cases counted
    exact answers.countRows kept known
  · cases counted
    exact answers.countResult kept known
  · cases counted

/-- What a read by a condition runs, and that its count is the number of the rows. -/
theorem counted_of_reading {result : Query → Option (List Row)} (sized : Query.Sized result) {database : Option String}
    {complex : Bool} {metadata : Metadata} {condition : Condition} (own : complex = true ∨ condition.source = none)
    {query : Query} (made : reading database complex metadata condition = .ok ⟨.select query, []⟩) {rows : List Row}
    (known : result query = some rows) :
    ∃ statement counted others,
      Statement.count database (if complex then none else some metadata) condition = .ok statement ∧
      statement.counted? = some counted ∧ result counted = some others ∧ others.length = rows.length := by
  obtain ⟨unsorted, known_, length⟩ := sized.sorts known
  rw [reading] at made
  cases complex with
  | true =>
    obtain ⟨source, filter, groups, sorts, fields, from_, tested, grouped, _, same⟩ := Statement.selectComplex_eq_ok.mp made
    cases same
    have isComplex := Statement.isComplex_of_source from_
    have whole : Statement.count database none condition =
        .ok ⟨.countResult { items := condition.fields.map .expression, source, filter, groups }, []⟩ :=
      Statement.count_eq_ok.mpr ⟨filter, groups, tested, grouped, .inl ⟨isComplex, fields, source, from_, rfl⟩⟩
    exact ⟨_, _, unsorted, whole, rfl, known_, length⟩
  | false =>
    obtain ⟨filter, items, table, groups, sorts, tested, named, checked, grouped, _, same⟩ := Statement.select_eq_ok.mp made
    cases same
    have simple : condition.isComplex = false := by simpa [Condition.isComplex] using own
    -- Groups are counted by a query of ones, and without groups the rows of the table are.
    have columns := Statement.projection_columns named
    have within : Statement.countedTable database (some metadata) = .ok table := checked
    have whole := Statement.count_eq_ok.mpr ⟨filter, groups, tested, grouped, .inr ⟨simple, table, within, rfl⟩⟩
    cases groups with
    | nil =>
      obtain ⟨ones, counted, size⟩ := sized.items columns known_ .one (.inl rfl)
      exact ⟨_, _, ones, whole, rfl, counted, size.trans length⟩
    | cons group rest =>
      obtain ⟨ones, counted, size⟩ := sized.items columns known_ (.oneAs "_one") (.inr ⟨_, rfl⟩)
      exact ⟨_, _, ones, whole, rfl, counted, size.trans length⟩

/-- The objects of rows, if every row can be read and is one. -/
def objectsOf (model : Model α) (metadata : Metadata) (rows : List Row) : Outcome (List α) := do
  let rows ← rows.mapM readable
  rows.mapM (metadata.decodeRow model)

theorem run_fetchObjects (s : Surroundings σ) (model : Model α) (metadata : Metadata) {scene : Scene σ}
    (unclosed : scene.work.isClosed = false) {statement : Statement} {rows : List Row} {later : σ}
    (fetched : s.fetch statement (s.note (.sending scene.work.dialect statement) scene.world) = (.done rows, later)) :
    ((fetchObjects s model metadata statement).run scene) =
      (objectsOf model metadata rows, { scene with world := later }) := by
  have read : (fetchAll s statement).run scene = (rows.mapM readable, { scene with world := later }) := by
    rw [fetchAll, run_bind, run_send s unclosed, fetched]
    exact run_outcome _ _
  rw [fetchObjects, run_bind, read, objectsOf]
  cases rows.mapM readable with
  | error failure => rfl
  | ok rows => exact run_outcome _ _

theorem totalOf_count {count : Nat} (bound : count < Word.signedBound) :
    totalOf (some [("COUNT(1)", .int (Int64.ofNat count))]) = .ok (UInt64.ofNat count) := by
  have whole : (Int64.ofNat count).toInt = count := Int64.toInt_ofNat_of_lt bound
  have read : totalOf (some [("COUNT(1)", .int (Int64.ofNat count))]) =
      .ok (UInt64.ofNat (Int64.ofNat count).toInt.toNat) := rfl
  rw [read, whole, Int.toNat_natCast]

theorem run_countRows (s : Surroundings σ) {state : σ → Prop}
    (keeps : ∀ event world, state world → state (s.note event world)) {metadata : Option Metadata}
    {condition : Condition} {scene : Scene σ} (unclosed : scene.work.isClosed = false) (kept : state scene.world)
    {statement : Statement} (made : Statement.count scene.work.options.database metadata condition = .ok statement)
    {count : Nat} (counts : Counts s state statement count) (bound : count < Word.signedBound) :
    ∃ later, (countRows s metadata condition).run scene = (.ok (UInt64.ofNat count), { scene with world := later }) ∧
      state later := by
  obtain ⟨later, fetched, still⟩ := counts _ (keeps (.sending scene.work.dialect statement) _ kept)
  refine ⟨later, ?_, still⟩
  have first : (fetchFirst s statement).run scene =
      (.ok (some [("COUNT(1)", .int (Int64.ofNat count))]), { scene with world := later }) := by
    rw [fetchFirst, run_bind, run_send s unclosed, fetched]
    rfl
  rw [countRows, run_bind, run_get]
  simp only [run_bind, made, run_outcome, first, totalOf_count bound]

/-- The rows of a page, or all if no page is asked for. -/
def pageOf : Option PagePlan → List Row → List Row
  | none, rows => rows
  | some plan, rows => (rows.drop plan.offset.toNat).take plan.count.toNat

/-- A page that does not start inside the rows has none. -/
theorem pageOf_outside {plan : PagePlan} {rows : List Row} (bound : rows.length < UInt64.size)
    (outside : plan.within (UInt64.ofNat rows.length) = false) : pageOf (some plan) rows = [] := by
  have skipped : rows.drop plan.offset.toNat = [] := by
    by_contra some_
    exact Bool.false_ne_true (outside.symm.trans ((plan.within_iff bound).mpr some_))
  rw [pageOf, skipped, List.take_nil]

/-- A list that is not counted is what is read of its statement's page. -/
theorem fetchList_uncounted {s : Surroundings σ} {model : Model α} {metadata : Metadata} {complex : Bool}
    {condition : Condition} {scene : Scene σ} (direct : scene.work.dialect.countsFirst = false) {query : Query}
    (made : reading scene.work.options.database complex metadata condition = .ok ⟨.select query, []⟩) :
    (fetchList s model complex metadata condition scene).1.1 =
      ((fetchObjects s model metadata ⟨.select query, condition.paging.plan?.toList⟩).run scene).1 := by
  simp only [fetchList, act_bind, act_get, made]
  cases condition.paging.plan? with
  | none => rfl
  | some plan =>
    simp only [fetchPage, act_bind, act_get, direct, Bool.false_eq_true, ↓reduceIte]
    rfl

/-- With a count before, a list is the page that can be read of its statement's rows, and the condition keeps their number if
it asks for a page. -/
theorem fetchList_after_count {s : Surroundings σ} {state : σ → Prop}
    (keeps : ∀ event world, state world → state (s.note event world)) (model : Model α) (metadata : Metadata)
    {complex : Bool} {condition : Condition} {scene : Scene σ} (unclosed : scene.work.isClosed = false)
    (kept : state scene.world) (counting : scene.work.dialect.countsFirst = true) (fresh : condition.paging.total = none)
    {query : Query} (made : reading scene.work.options.database complex metadata condition = .ok ⟨.select query, []⟩)
    {statement : Statement}
    (counted : Statement.count scene.work.options.database (if complex then none else some metadata) condition = .ok statement)
    {rows : List Row} (counts : Counts s state statement rows.length) (bound : rows.length < Word.signedBound)
    (page : ∀ later : Scene σ, later.work.isClosed = false → state later.world →
      ((fetchObjects s model metadata ⟨.select query, condition.paging.plan?.toList⟩).run later).1 =
        objectsOf model metadata (pageOf condition.paging.plan? rows)) :
    (fetchList s model complex metadata condition scene).1 =
      (objectsOf model metadata (pageOf condition.paging.plan? rows),
        if condition.paging.plan?.isSome then condition.setTotal (UInt64.ofNat rows.length) else condition) := by
  simp only [fetchList, act_bind, act_get, made]
  cases asked : condition.paging.plan? with
  | none =>
    rw [asked] at page
    exact Prod.ext (page scene unclosed kept) rfl
  | some plan =>
    rw [asked] at page
    obtain ⟨later, total, still⟩ := run_countRows s keeps unclosed kept counted counts bound
    let next : Scene σ := { scene with world := later }
    have found : totalFor s complex metadata condition scene =
        ((.ok (UInt64.ofNat rows.length), condition.setTotal (UInt64.ofNat rows.length)), next) := by
      simp only [totalFor, fresh, act_bind, total]
      rfl
    simp only [fetchPage, act_bind, act_get, counting, ↓reduceIte, found]
    cases inside : plan.within (UInt64.ofNat rows.length) with
    | true => exact Prod.ext (page next unclosed still) rfl
    | false =>
      -- The page is not read, and it would have been empty.
      have size : rows.length < UInt64.size := Nat.lt_trans bound (by decide)
      rw [pageOf_outside size inside]
      rfl

section

variable {s : Surroundings σ} {state : σ → Prop} {result : Query → Option (List Row)} (answers : s.Answers state result)
  (sized : Query.Sized result) (model : Model α) (metadata : Metadata) {query : Query} {rows : List Row}
  (known : result query = some rows) {scene : Scene σ} (unclosed : scene.work.isClosed = false)
  (kept : state scene.world)
include answers known unclosed kept

theorem fetchObjects_page (plan : Option PagePlan) :
    ((fetchObjects s model metadata ⟨.select query, plan.toList⟩).run scene).1 =
      objectsOf model metadata (pageOf plan rows) := by
  cases plan with
  | none =>
    obtain ⟨later, fetched, _⟩ := answers.select (answers.note kept) known
    exact congrArg Prod.fst (run_fetchObjects s model metadata unclosed fetched)
  | some plan =>
    obtain ⟨later, fetched, _⟩ := answers.page (answers.note kept) known plan
    exact congrArg Prod.fst (run_fetchObjects s model metadata unclosed fetched)

/-- Without a count, a list is the page of its statement's rows. -/
theorem fetchList_direct {complex : Bool} {condition : Condition} (direct : scene.work.dialect.countsFirst = false)
    (made : reading scene.work.options.database complex metadata condition = .ok ⟨.select query, []⟩) :
    (fetchList s model complex metadata condition scene).1.1 =
      objectsOf model metadata (pageOf condition.paging.plan? rows) := by
  rw [fetchList_uncounted direct made]
  exact fetchObjects_page answers model metadata known unclosed kept condition.paging.plan?

include sized

/-- With a count before, a list is the same page, and the count is the number of its statement's rows. -/
theorem fetchList_counted {complex : Bool} {condition : Condition} (counting : scene.work.dialect.countsFirst = true)
    (fresh : condition.paging.total = none) (own : complex = true ∨ condition.source = none)
    (bound : rows.length < Word.signedBound)
    (made : reading scene.work.options.database complex metadata condition = .ok ⟨.select query, []⟩) :
    (fetchList s model complex metadata condition scene).1.1 =
        objectsOf model metadata (pageOf condition.paging.plan? rows) ∧
      (condition.paging.plan?.isSome →
        (fetchList s model complex metadata condition scene).1.2.paging.total = some (UInt64.ofNat rows.length)) := by
  obtain ⟨statement, query_, others, counted, counts?, known_, size⟩ := counted_of_reading sized own made known
  have counts : Counts s state statement rows.length := size ▸ counts_of_counted answers counts? known_
  have list := fetchList_after_count (fun _ _ kept => answers.note kept) model metadata unclosed kept counting fresh made
    counted counts bound fun later open_ still => fetchObjects_page answers model metadata known open_ still _
  refine ⟨congrArg Prod.fst list, fun asked => ?_⟩
  rw [list, if_pos asked]
  rfl

end

theorem reading_select {database : Option String} {complex : Bool} {metadata : Metadata} {condition : Condition}
    {statement : Statement} (made : reading database complex metadata condition = .ok statement) :
    ∃ query, statement = ⟨.select query, []⟩ := by
  rw [reading] at made
  cases complex with
  | true =>
    obtain ⟨_, _, _, _, _, _, _, _, _, rfl⟩ := Statement.selectComplex_eq_ok.mp made
    exact ⟨_, rfl⟩
  | false =>
    obtain ⟨_, _, _, _, _, _, _, _, _, _, rfl⟩ := Statement.select_eq_ok.mp made
    exact ⟨_, rfl⟩

theorem findList_ok {s : Surroundings σ} {model : Model α} {complex : Bool} {condition : Condition} {metadata : Metadata}
    (looked : modelFor s model condition = .ok metadata) (scene : Scene σ) :
    (findList s model complex condition scene).1 = (fetchList s model complex metadata condition scene).1 := by
  simp only [findList, looked, act_bind, recorded_apply, run_outcome]
  rfl

theorem findList_error {s : Surroundings σ} {model : Model α} {complex : Bool} {condition : Condition} {failure : Failure}
    (looked : modelFor s model condition = .error failure) (scene : Scene σ) :
    (findList s model complex condition scene).1.1 = .error failure := by
  simp only [findList, looked, act_bind, recorded_apply]
  rfl

theorem fetchList_error {s : Surroundings σ} {model : Model α} {complex : Bool} {metadata : Metadata} {condition : Condition}
    {scene : Scene σ} {failure : Failure}
    (refused : reading scene.work.options.database complex metadata condition = .error failure) :
    (fetchList s model complex metadata condition scene).1.1 = .error failure := by
  simp only [fetchList, act_bind, act_get, refused]
  rfl

/-- An open unit of work on a database in a state, over a dialect that counts first or does not. -/
structure Reads (state : σ → Prop) (counts : Bool) (scene : Scene σ) : Prop where
  dialect : scene.work.dialect.countsFirst = counts
  unclosed : scene.work.isClosed = false
  kept : state scene.world

/-- A list is the same with and without a count before it, unless its condition has a source that only the count reads. The
count is the number of rows of the list's own statement, and a page that is not read would have been empty. -/
theorem counted_list_eq_direct {s : Surroundings σ} {state : σ → Prop} {result : Query → Option (List Row)}
    (answers : s.Answers state result) (sized : Query.Sized result) (model : Model α) (complex : Bool)
    {condition : Condition} (fresh : condition.paging.total = none) (own : complex = true ∨ condition.source = none)
    {counting direct : Scene σ} (first : Reads state true counting) (other : Reads state false direct)
    (same : direct.work.options.database = counting.work.options.database)
    (answered : ∀ metadata query, modelFor s model condition = .ok metadata →
      reading counting.work.options.database complex metadata condition = .ok ⟨.select query, []⟩ →
        ∃ rows, result query = some rows ∧ rows.length < Word.signedBound) :
    (findList s model complex condition counting).1.1 = (findList s model complex condition direct).1.1 ∧
      ∀ metadata query rows plan, modelFor s model condition = .ok metadata →
        reading counting.work.options.database complex metadata condition = .ok ⟨.select query, []⟩ →
        result query = some rows → condition.paging.plan? = some plan →
          (findList s model complex condition counting).1.2.paging.total = some (UInt64.ofNat rows.length) ∧
            (plan.within (UInt64.ofNat rows.length) = false ↔ rows.drop plan.offset.toNat = []) := by
  constructor
  · cases looked : modelFor s model condition with
    | error failure => rw [findList_error looked, findList_error looked]
    | ok metadata =>
      rw [findList_ok looked, findList_ok looked]
      cases made : reading counting.work.options.database complex metadata condition with
      | error failure => rw [fetchList_error made, fetchList_error (same ▸ made)]
      | ok statement =>
        obtain ⟨query, rfl⟩ := reading_select made
        obtain ⟨rows, known, bound⟩ := answered metadata query looked made
        rw [(fetchList_counted answers sized model metadata known first.unclosed first.kept first.dialect fresh own bound made).1,
          fetchList_direct answers model metadata known other.unclosed other.kept other.dialect (same ▸ made)]
  · intro metadata query rows plan looked made known asked
    obtain ⟨_, again, bound⟩ := answered metadata query looked made
    cases known.symm.trans again
    have size : rows.length < UInt64.size := Nat.lt_trans bound (by decide)
    rw [findList_ok looked]
    refine ⟨?_, ?_⟩
    · exact (fetchList_counted answers sized model metadata known first.unclosed first.kept first.dialect fresh own bound
        made).2 (by simp [asked])
    · rw [← Bool.not_eq_true, plan.within_iff size, ne_eq, not_not]

end Work

/-- Surroundings whose database answers queries so and never changes. -/
def Surroundings.ofResult (registry : Registry) (result : Query → Option (List Row)) : Surroundings Unit where
  registry
  execute _ _ := (.done 0, ())
  fetch statement _ :=
    let count (rows : List Row) : List Row := [[("COUNT(1)", .int (Int64.ofNat rows.length))]]
    let rows := match statement with
      | ⟨.select query, []⟩ => result query
      | ⟨.select query, [plan]⟩ => (result query).map fun rows => (rows.drop plan.offset.toNat).take plan.count.toNat
      | ⟨.countResult query, []⟩ => (result query).map count
      | ⟨.countRows source filter, []⟩ => (result { items := [.one], source, filter }).map count
      | _ => none
    match rows with
    | some rows => (.done rows, ())
    | none => (.refused "no such table", ())
  commit _ := (.done (), ())
  rollback _ := (.done (), ())
  release := id
  abandon := id
  reading _ := (0, ())
  note _ := id
  store := none

theorem Surroundings.answers_ofResult (registry : Registry) (result : Query → Option (List Row)) :
    (ofResult registry result).Answers (fun _ => True) result where
  note _ := trivial
  select _ known := ⟨(), by simp only [ofResult, known], trivial⟩
  page _ known plan := ⟨(), by simp only [ofResult, known, Option.map_some], trivial⟩
  countResult _ known := ⟨(), by simp only [ofResult, known, Option.map_some], trivial⟩
  countRows _ known := ⟨(), by simp only [ofResult, known, Option.map_some], trivial⟩

/-- Three tokens. -/
def tokenRows : List Row :=
  ["a", "b", "c"].map fun text => [("token", .text text), ("owner", .null), ("active", .int 1), ("blob", .blob [0])]

/-- What a query over all tokens reads. -/
def tokensRead (query : Query) : Option (List Row) :=
  if query.source.table.name = "token" then
    some (tokenRows.map fun row => query.items.map fun item => match item with
      | .column name => (name, (firstNamed? name row).getD .null)
      | .expression text => (text, .null)
      | .one => ("1", .int 1)
      | .oneAs label => (label, .int 1))
  else none

theorem sized_tokensRead : Query.Sized tokensRead where
  sorts known := by
    unfold tokensRead at known ⊢
    split at known
    next named =>
      cases known
      exact ⟨_, if_pos named, by simp⟩
    · cases known
  items _ known item _ := by
    unfold tokensRead at known ⊢
    split at known
    next named =>
      cases known
      exact ⟨_, if_pos named, by simp⟩
    · cases known

namespace Work

def tokens : Surroundings Unit := .ofResult ⟨[tokenMetadata]⟩ tokensRead

def readingTokens (dialect : Dialect) : Scene Unit := ⟨opened dialect {} (.ofMilliseconds 1) .connection, ⟨0, []⟩, ()⟩

/-- The second page of three tokens, two on each page, is the same with a count before it. -/
theorem second_page_counted :
    let condition : Condition := { paging := { number := 2, size := 2 } }
    (findList tokens token false condition (readingTokens .mysql)).1.1 =
        (findList tokens token false condition (readingTokens .sqlite)).1.1 ∧
      (findList tokens token false condition (readingTokens .mysql)).1.2.paging.total = some 3 := by
  intro condition
  have first : Reads (fun _ => True) true (readingTokens .mysql) := ⟨rfl, rfl, trivial⟩
  have other : Reads (fun _ => True) false (readingTokens .sqlite) := ⟨rfl, rfl, trivial⟩
  have fresh : condition.paging.total = none := rfl
  have own : false = true ∨ condition.source = none := .inr rfl
  have looked : modelFor tokens token condition = .ok tokenMetadata := rfl
  have made : reading none false tokenMetadata condition = .ok ⟨.select
      { items := [.column "token", .column "owner", .column "active", .column "blob"], source := { table := ⟨none, "token"⟩ } },
      []⟩ := rfl
  have answered (metadata : Metadata) (query : Query) (found : modelFor tokens token condition = .ok metadata)
      (read : reading none false metadata condition = .ok ⟨.select query, []⟩) :
      ∃ rows, tokensRead query = some rows ∧ rows.length < Word.signedBound := by
    cases looked.symm.trans found
    cases made.symm.trans read
    exact ⟨_, rfl, by decide⟩
  obtain ⟨same, total⟩ := counted_list_eq_direct (Surroundings.answers_ofResult ⟨[tokenMetadata]⟩ tokensRead)
    sized_tokensRead token false fresh own first other rfl answered
  have asked : condition.paging.plan? = some ⟨2, 2⟩ := by decide
  exact ⟨same, (total _ _ _ _ looked made rfl asked).1⟩

/-- A list reads its model's table although its condition has a source, but the count before it does not. Here the count is
refused, as it has no expression to read from the source. -/
theorem foreign_source_counted :
    let condition : Condition := { paging := { number := 1, size := 1 }, source := some ⟨"wallet", "w"⟩ }
    (findList tokens token false condition (readingTokens .sqlite)).1.1 =
        .ok [.fields [("token", .text "a"), ("owner", .null), ("active", .bool true), ("blob", .list [.int 0]),
          ("cache", .text "")]] ∧
      (findList tokens token false condition (readingTokens .mysql)).1.1 = .error (.validation .noProjection) :=
  ⟨rfl, rfl⟩

end Work

end RecordMapper
