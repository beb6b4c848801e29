import RecordMapper.Proofs.PagePartition
import RecordMapper.Proofs.RejectedReads

/-! Reads from a database that may refuse them. A page of a query's result is a slice of it if both of its numbers are below
a bound, and the first object that a condition finds is the head of its list. -/

namespace RecordMapper

/-- A statement is answered by its rows if it has any, which leaves the state as it is, and is not answered otherwise. -/
def Surroundings.Serves (s : Surroundings σ) (state : σ → Prop) (statement : Statement) : Option (List Row) → Prop
  | some rows => ∀ world, state world → ∃ later, s.fetch statement world = (.done rows, later) ∧ state later
  | none => ∀ world, state world → ∀ rows later, s.fetch statement world ≠ (.done rows, later)

/-- What is left of a query's result on a page. No page has a number that is not below the bound. -/
def slicedPage (bound : Nat) (result : Option (List Row)) : Option PagePlan → Option (List Row)
  | none => result
  | some plan =>
    if plan.offset.toNat < bound ∧ plan.count.toNat < bound then result.map (Work.pageOf (some plan)) else none

/-- A query whose result is read as a whole or by pages from a database that reads leave alone. -/
structure Surroundings.Pages (s : Surroundings σ) (state : σ → Prop) (bound : Nat) (query : Query)
    (result : Option (List Row)) : Prop where
  note {event : Event} {world : σ} (kept : state world) : state (s.note event world)
  one : 1 < bound
  page (plan : Option PagePlan) : s.Serves state ⟨.select query, plan.toList⟩ (slicedPage bound result plan)

/-- A query whose rows such a database counts. -/
structure Surroundings.Tallies (s : Surroundings σ) (state : σ → Prop) (query : Query) (result : Option (List Row)) :
    Prop where
  note {event : Event} {world : σ} (kept : state world) : state (s.note event world)
  count {statement : Statement} (counted : statement.counted? = some query) :
    s.Serves state statement (result.map fun rows => [[("COUNT(1)", .int (Int64.ofNat rows.length))]])

theorem Statement.counted?_eq_some {statement : Statement} {query : Query} : statement.counted? = some query ↔
    (∃ source filter, statement = ⟨.countRows source filter, []⟩ ∧ query = { items := [.one], source, filter }) ∨
      statement = ⟨.countResult query, []⟩ := by
  constructor
  · intro counted
    unfold counted? at counted
    split at counted
    · cases counted
      exact .inl ⟨_, _, rfl, rfl⟩
    · cases counted
      exact .inr rfl
    · cases counted
  · rintro (⟨_, _, rfl, rfl⟩ | rfl) <;> rfl

theorem Paging.count_pos {paging : Paging} {plan : PagePlan} (asked : paging.plan? = some plan) : 0 < plan.count.toNat := by
  obtain ⟨_, rfl⟩ := plan?_eq_some.mp asked
  exact rowsPerPage_pos paging.size

namespace Work

/-- The page that the first object is looked for on. -/
def firstOf (paging : Paging) : PagePlan := ⟨(paging.plan?.map PagePlan.offset).getD 0, 1⟩

/-- It starts where the condition's own page does, which holds at least one row. -/
theorem head_page {bound : Nat} (one : 1 < bound) {result : Option (List Row)} {paging : Paging} {rows : List Row}
    (listed : slicedPage bound result paging.plan? = some rows) :
    ∃ page, slicedPage bound result (some (firstOf paging)) = some page ∧ page.head? = rows.head? := by
  have zero : (0 : UInt64).toNat = 0 := rfl
  have single : (1 : UInt64).toNat = 1 := rfl
  cases asked : paging.plan? with
  | none =>
    rw [asked, slicedPage] at listed
    refine ⟨rows.take 1, ?_, by cases rows <;> rfl⟩
    rw [firstOf, asked, listed, slicedPage, if_pos ⟨by simpa using Nat.lt_of_succ_lt one, one⟩]
    rfl
  | some plan =>
    rw [asked, slicedPage] at listed
    split at listed
    next fits =>
      obtain ⟨whole, rfl, rfl⟩ := Option.map_eq_some_iff.mp listed
      refine ⟨(whole.drop plan.offset.toNat).take 1, ?_, ?_⟩
      · rw [firstOf, asked, slicedPage]
        exact if_pos ⟨fits.1, one⟩
      · have filled : plan.count.toNat ≠ 0 := (Paging.count_pos asked).ne'
        rw [pageOf, List.head?_take, List.head?_take, if_neg filled, if_neg Nat.one_ne_zero]
    · cases listed

section

variable {s : Surroundings σ} {state : σ → Prop} {statement : Statement} {scene : Scene σ}
  (unclosed : scene.work.isClosed = false) (kept : state (s.note (.sending scene.work.dialect statement) scene.world))
include unclosed kept

theorem run_send_refused (serves : s.Serves state statement none) (next : List Row → Attempt σ α) (value : α) :
    ((send s statement (s.fetch statement) >>= next).run scene).1 ≠ .ok value := by
  have refused := serves _ kept
  rw [run_bind, run_send s unclosed]
  generalize s.fetch statement (s.note (.sending scene.work.dialect statement) scene.world) = reply at refused
  obtain ⟨reply, later⟩ := reply
  cases reply with
  | done rows => exact absurd rfl (refused rows later)
  | refused => exact nofun
  | silent => exact nofun

theorem fetchObjects_served (model : Model α) (metadata : Metadata) {rows : List Row}
    (serves : s.Serves state statement (some rows)) :
    ((fetchObjects s model metadata statement).run scene).1 = objectsOf model metadata rows := by
  obtain ⟨later, fetched, _⟩ := serves _ kept
  exact congrArg Prod.fst (run_fetchObjects s model metadata unclosed fetched)

theorem fetchObjects_ok {model : Model α} {metadata : Metadata} {served : Option (List Row)}
    (serves : s.Serves state statement served) {objects : List α}
    (read : ((fetchObjects s model metadata statement).run scene).1 = .ok objects) :
    ∃ rows, served = some rows ∧ objectsOf model metadata rows = .ok objects := by
  cases served with
  | some rows => exact ⟨rows, rfl, (fetchObjects_served unclosed kept model metadata serves).symm.trans read⟩
  | none =>
    rw [fetchObjects, fetchAll, bind_assoc] at read
    exact absurd read (run_send_refused unclosed kept serves _ _)

theorem fetchFirst_served {rows : List Row} (serves : s.Serves state statement (some rows)) :
    ((fetchFirst s statement).run scene).1 = rows.head?.mapM readable := by
  obtain ⟨later, fetched, _⟩ := serves _ kept
  rw [fetchFirst, run_bind, run_send s unclosed, fetched]
  cases rows with
  | nil => rfl
  | cons row rest =>
    change ((some <$> (liftM (readable row) : Attempt σ Row)).run _).1 = some <$> readable row
    cases readable row <;> rfl

theorem fetchFirst_ok {served : Option (List Row)} (serves : s.Serves state statement served) {first : Option Row}
    (read : ((fetchFirst s statement).run scene).1 = .ok first) : ∃ rows, served = some rows ∧ first = rows.head? := by
  cases served with
  | some rows =>
    rw [fetchFirst_served unclosed kept serves] at read
    refine ⟨rows, rfl, ?_⟩
    cases rows with
    | nil =>
      cases read
      rfl
    | cons row rest =>
      have sound : some <$> readable row = .ok first := read
      unfold readable at sound
      split at sound
      · cases sound
        rfl
      · cases sound
  | none => exact absurd read (run_send_refused unclosed kept serves _ _)

end

end Work

namespace Surroundings

theorem pages_ofResult (registry : Registry) (result : Query → Option (List Row)) (query : Query) :
    (ofResult registry result).Pages (fun _ => True) UInt64.size query (result query) where
  note _ := trivial
  one := by decide
  page plan := by
    cases plan with
    | none =>
      rw [slicedPage, Option.toList_none]
      cases known : result query with
      | some rows => exact fun _ _ => ⟨(), by simp only [ofResult, known], trivial⟩
      | none => exact fun _ _ rows later => by simp [ofResult, known]
    | some plan =>
      rw [slicedPage, if_pos ⟨plan.offset.toNat_lt, plan.count.toNat_lt⟩, Option.toList_some]
      cases known : result query with
      | some rows => exact fun _ _ => ⟨(), by simp only [ofResult, known, Option.map_some]; rfl, trivial⟩
      | none => exact fun _ _ rows later => by simp [ofResult, known]

theorem tallies_ofResult (registry : Registry) (result : Query → Option (List Row)) (query : Query) :
    (ofResult registry result).Tallies (fun _ => True) query (result query) where
  note _ := trivial
  count {statement} counted := by
    obtain ⟨source, filter, rfl, rfl⟩ | rfl := Statement.counted?_eq_some.mp counted
    all_goals cases known : result _ with
      | some rows => exact fun _ _ => ⟨(), by simp only [ofResult, known, Option.map_some], trivial⟩
      | none => exact fun _ _ rows later => by simp [ofResult, known]

end Surroundings

end RecordMapper
