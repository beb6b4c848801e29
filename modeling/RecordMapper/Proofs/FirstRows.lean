import RecordMapper.Proofs.StoredReads

/-! The first object that a condition finds. It is the head of the condition's list, which is read in another way, and an
object to read into is changed by nothing but a hit. -/

namespace RecordMapper.Work

/-- What is read of the first of some rows. -/
def headOf (model : Model α) (metadata : Metadata) (rows : List Row) : Outcome (Option α) :=
  rows.head?.mapM fun row => do
    let row ← readable row
    metadata.decodeRow model row

theorem headOf_cons (model : Model α) (metadata : Metadata) (row : Row) (rest : List Row) :
    headOf model metadata (row :: rest) = some <$> (readable row >>= fun row => metadata.decodeRow model row) := rfl

theorem headOf_eq_head {model : Model α} {metadata : Metadata} {rows : List Row} {objects : List α}
    (read : objectsOf model metadata rows = .ok objects) : headOf model metadata rows = .ok objects.head? := by
  simp only [objectsOf, Outcome.bind_eq_ok, Outcome.mapM_eq_ok] at read
  obtain ⟨whole, first, second⟩ := read
  cases first with
  | nil =>
    cases second
    rfl
  | cons row _ =>
    cases second with
    | cons object _ =>
      simp only [headOf_cons, row, object, bind, Except.bind, Functor.map, Except.map, List.head?_cons]

theorem headOf_congr (model : Model α) (metadata : Metadata) {rows others : List Row} (same : rows.head? = others.head?) :
    headOf model metadata rows = headOf model metadata others := by
  rw [headOf, headOf, same]

theorem fetchOne_eq (s : Surroundings σ) (model : Model α) (complex : Bool) (metadata : Metadata) (condition : Condition) :
    fetchOne s model complex metadata condition = (do
      let statement ← reading (← get).work.options.database complex metadata condition
      match ← fetchFirst s (statement.paginate (firstOf condition.paging)) with
      | none => return none
      | some row => return some (← metadata.decodeRow model row)) := by
  unfold fetchOne firstOf
  cases condition.paging.plan? <;> rfl

theorem fetchOne_served {s : Surroundings σ} {state : σ → Prop} {bound : Nat} {query : Query} {result : Option (List Row)}
    (pages : s.Pages state bound query result) (model : Model α) (metadata : Metadata) {complex : Bool}
    {condition : Condition} {scene : Scene σ} (unclosed : scene.work.isClosed = false) (kept : state scene.world)
    (made : reading scene.work.options.database complex metadata condition = .ok ⟨.select query, []⟩) {rows : List Row}
    (served : slicedPage bound result (some (firstOf condition.paging)) = some rows) :
    ((fetchOne s model complex metadata condition).run scene).1 = headOf model metadata rows := by
  have serves := pages.page (some (firstOf condition.paging))
  rw [served] at serves
  have first := fetchFirst_served unclosed (pages.note kept) serves
  have paged : (⟨.select query, []⟩ : Statement).paginate (firstOf condition.paging) =
      ⟨.select query, (some (firstOf condition.paging)).toList⟩ := rfl
  simp only [fetchOne_eq, run_bind, run_get, made, run_outcome, paged]
  generalize (fetchFirst s ⟨.select query, (some (firstOf condition.paging)).toList⟩).run scene = reached at first ⊢
  obtain ⟨outcome, later⟩ := reached
  dsimp only at first
  subst first
  cases rows with
  | nil => rfl
  | cons row rest =>
    have head : Option.mapM readable (row :: rest).head? = some <$> readable row := rfl
    rw [headOf_cons, head]
    cases readable row with
    | error failure => rfl
    | ok row =>
      change ((some <$> (liftM (metadata.decodeRow model row) : Attempt σ α)).run _).1 = some <$> metadata.decodeRow model row
      cases metadata.decodeRow model row <;> rfl

theorem findOne_ok {s : Surroundings σ} {model : Model α} {complex : Bool} {condition : Condition} {metadata : Metadata}
    (looked : modelFor s model condition = .ok metadata) (object : α) (scene : Scene σ) :
    (findOne s model complex condition object scene).1 =
      found object ((fetchOne s model complex metadata condition).run scene).1 := by
  simp only [findOne, act_bind, recorded_apply, run_bind, run_outcome, looked]
  rfl

theorem fetchList_ok {s : Surroundings σ} {state : σ → Prop} {bound : Nat} {query : Query} {result : Option (List Row)}
    (pages : s.Pages state bound query result) {model : Model α} {metadata : Metadata} {complex : Bool}
    {condition : Condition} {scene : Scene σ} (reads : Reads state false scene)
    (made : reading scene.work.options.database complex metadata condition = .ok ⟨.select query, []⟩) {objects : List α}
    (listed : (fetchList s model complex metadata condition scene).1.1 = .ok objects) :
    ∃ rows, slicedPage bound result condition.paging.plan? = some rows ∧ objectsOf model metadata rows = .ok objects := by
  rw [fetchList_uncounted reads.dialect made] at listed
  exact fetchObjects_ok reads.unclosed (pages.note reads.kept) (pages.page _) listed

theorem found_missed {given : α} {outcome : Outcome (Option α)} (missed : (found given outcome).1 ≠ .ok true) :
    (found given outcome).2 = given := by
  unfold found at missed ⊢
  split
  next => exact absurd rfl missed
  · rfl
  · rfl

theorem findOne_missed {s : Surroundings σ} {model : Model α} {complex : Bool} {condition : Condition} {object : α}
    {scene : Scene σ} (missed : (findOne s model complex condition object scene).1.1 ≠ .ok true) :
    (findOne s model complex condition object scene).1.2 = object :=
  found_missed missed

theorem findById_missed {s : Surroundings σ} {model : Model α} {object : α} {scene : Scene σ}
    (missed : (findById s model object scene).1.1 ≠ .ok true) : (findById s model object scene).1.2 = object :=
  found_missed missed

/-- Where a condition has a list that is read without a count, the object that it finds is the head of the list, and it finds
none exactly if the list is empty. Whatever happens, an object to read into stays as it is unless there is a hit. -/
theorem first_found_heads_list {s : Surroundings σ} {state : σ → Prop} {bound : Nat} (model : Model α) (complex : Bool)
    (condition : Condition) (object : α) {listing single : Scene σ} (direct : Reads state false listing)
    {counts : Bool} (other : Reads state counts single)
    (same : single.work.options.database = listing.work.options.database)
    (sliced : ∀ metadata query, modelFor s model condition = .ok metadata →
      reading listing.work.options.database complex metadata condition = .ok ⟨.select query, []⟩ →
        ∃ result, s.Pages state bound query result) :
    (∀ objects, (findList s model complex condition listing).1.1 = .ok objects →
      (findOne s model complex condition object single).1 =
        match objects with
        | [] => (.ok false, object)
        | first :: _ => (.ok true, first)) ∧
    (∀ scene, (findOne s model complex condition object scene).1.1 ≠ .ok true →
      (findOne s model complex condition object scene).1.2 = object) ∧
    ∀ scene, (findById s model object scene).1.1 ≠ .ok true → (findById s model object scene).1.2 = object := by
  refine ⟨fun objects listed => ?_, fun scene => findOne_missed, fun scene => findById_missed⟩
  cases looked : modelFor s model condition with
  | error failure =>
    rw [findList_error looked] at listed
    cases listed
  | ok metadata =>
    rw [findList_ok looked] at listed
    cases made : reading listing.work.options.database complex metadata condition with
    | error failure =>
      rw [fetchList_error made] at listed
      cases listed
    | ok statement =>
      obtain ⟨query, rfl⟩ := reading_select made
      obtain ⟨result, pages⟩ := sliced metadata query looked made
      obtain ⟨rows, served, read⟩ := fetchList_ok pages direct made listed
      obtain ⟨page, found, head⟩ := head_page pages.one served
      have first := fetchOne_served pages model metadata other.unclosed other.kept (same ▸ made) found
      rw [findOne_ok looked, first, headOf_congr model metadata head, headOf_eq_head read]
      cases objects <;> rfl

/-- The second page of three tokens in memory, one on each page, holds the token that is found there. -/
theorem second_token_found :
    let condition : Condition := { paging := { number := 2, size := 1 } }
    let second : Json := .fields
      [("token", .text "b"), ("owner", .null), ("active", .bool true), ("blob", .list [.int 0]), ("cache", .text "")]
    let tokens := readingStored ["a", "b", "c"]
    (findList storedTokens token false condition tokens).1.1 = .ok [second] ∧
      (findOne storedTokens token false condition token.blank tokens).1 = (.ok true, second) := by
  intro condition second tokens
  have looked : modelFor storedTokens token condition = .ok tokenMetadata := rfl
  have made : reading none false tokenMetadata condition = .ok ⟨.select
      { items := [.column "token", .column "owner", .column "active", .column "blob"], source := { table := ⟨none, "token"⟩ } },
      []⟩ := rfl
  have sliced (metadata : Metadata) (query : Query) (found : modelFor storedTokens token condition = .ok metadata)
      (read : reading none false metadata condition = .ok ⟨.select query, []⟩) :
      ∃ result, storedTokens.Pages (World.Links "main" (tokenDatabase ["a", "b", "c"])) Word.signedBound query result := by
    cases looked.symm.trans found
    cases made.symm.trans read
    exact ⟨_, World.pages _ _ _ _ rfl⟩
  have listed : (findList storedTokens token false condition tokens).1.1 = .ok [second] := by
    with_unfolding_all rfl
  have reads := reads_readingStored ["a", "b", "c"]
  have heads := first_found_heads_list token false condition token.blank reads reads rfl sliced
  exact ⟨listed, heads.1 _ listed⟩

end RecordMapper.Work
