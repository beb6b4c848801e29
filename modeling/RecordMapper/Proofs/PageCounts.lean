import RecordMapper.Proofs.PagePartition
import RecordMapper.Proofs.StoredTotals

/-! Numbers of pages that conditions store. However a condition is built and counted by, it stores how many pages its total
fills, provided that a page size is asked for; if the size is left to the default, it stores none. -/

namespace RecordMapper

namespace Paging

/-- The number of pages is in line with total and size. -/
def Agrees (paging : Paging) : Prop := paging.refresh = paging

theorem agrees_refresh (paging : Paging) : paging.refresh.Agrees := rfl

theorem toNat_ceilingQuotient (total : UInt64) {size : UInt64} (positive : 0 < size.toNat) :
    (ceilingQuotient total size).toNat = total.toNat ⌈/⌉ size.toNat := by
  have fewer : total.toNat ⌈/⌉ size.toNat ≤ total.toNat :=
    (ceilDiv_le_iff_le_mul positive).mpr (Nat.le_mul_of_pos_left _ positive)
  rw [ceilingQuotient, ← Nat.ceilDiv_eq_add_pred_div, UInt64.toNat_ofNat_of_lt']
  exact Nat.lt_of_le_of_lt fewer total.toNat_lt

/-- A number of pages is stored exactly if a size is asked for, and then it is that of the pages of the plan. -/
theorem Agrees.pages_iff {paging : Paging} (agrees : paging.Agrees) {total : UInt64}
    (stored : paging.total = some total) {plan : PagePlan} (asked : paging.plan? = some plan) :
    (∃ pages, paging.pages = some pages ∧ pages.toNat = total.toNat ⌈/⌉ plan.count.toNat) ↔ paging.size ≠ 0 := by
  obtain ⟨_, rfl⟩ := plan?_eq_some.mp asked
  rw [← agrees, refresh, stored]
  dsimp only
  split
  next positive =>
    have given : paging.size ≠ 0 := fun zero => UInt64.lt_irrefl _ (zero ▸ positive)
    refine iff_of_true ⟨_, rfl, ?_⟩ given
    rw [rowsPerPage, if_neg given]
    exact toNat_ceilingQuotient total (UInt64.lt_iff_toNat_lt.mp positive)
  -- Without a size no pages are stored, whatever number of rows the plan has.
  next none_ =>
    exact iff_of_false (fun ⟨_, some_, _⟩ => nomatch some_) fun given => none_ (UInt64.pos_iff_ne_zero.mpr given)

theorem within_plan_iff {paging : Paging} (total : UInt64) {plan : PagePlan} (asked : paging.plan? = some plan)
    (paged : paging.isOffset = false) (given : paging.number ≠ 0) :
    plan.within total = true ↔ paging.number.toNat ≤ total.toNat ⌈/⌉ plan.count.toNat := by
  obtain ⟨_, rfl⟩ := plan?_eq_some.mp asked
  rw [ne_eq, ← UInt64.toNat_inj, UInt64.toNat_zero] at given
  simp only [paged, Bool.false_eq_true, if_false]
  rw [within_page_iff, Statement.mul_lt_iff_lt_ceilDiv (rowsPerPage_pos _)]
  omega

end Paging

theorem Condition.agrees_apply {condition : Condition} (agrees : condition.paging.Agrees) (step : Step) :
    (condition.apply step).paging.Agrees := by
  cases step with
  | page | offset | counted => exact Paging.agrees_refresh _
  | _ => exact agrees

namespace Work

theorem count_condition (s : Surroundings σ) (condition : Condition) (scene : Scene σ) :
    (count s condition scene).1.2 = condition ∨ ∃ total, (count s condition scene).1.2 = condition.setTotal total := by
  rw [count_eq, act_bind]
  generalize recorded _ scene = reached
  obtain ⟨outcome, later⟩ := reached
  cases outcome with
  | ok total => exact .inr ⟨total, rfl⟩
  | error failure => exact .inl rfl

theorem findList_condition (s : Surroundings σ) (model : Model α) (complex : Bool) (condition : Condition)
    (scene : Scene σ) :
    (findList s model complex condition scene).1.2 = condition ∨
      ∃ total, (findList s model complex condition scene).1.2 = condition.setTotal total := by
  cases looked : modelFor s model condition with
  | error failure => exact .inl (by simp only [findList, looked]; rfl)
  | ok metadata =>
    rw [findList_ok looked]
    rcases fetchList_total s model complex metadata condition scene with same | ⟨total, _, _, _, same⟩
    · exact .inl same
    · exact .inr ⟨total, same⟩

theorem agrees_perform (s : Surroundings σ) {condition : Condition} (agrees : condition.paging.Agrees) (use : Use)
    (scene : Scene σ) : (use.perform s condition scene).1.paging.Agrees := by
  have either {later : Condition} (reached : later = condition ∨ ∃ total, later = condition.setTotal total) :
      later.paging.Agrees := by
    obtain rfl | ⟨total, rfl⟩ := reached
    · exact agrees
    · exact Condition.agrees_apply agrees (.counted total)
  cases use with
  | build step => exact Condition.agrees_apply agrees step
  | count => exact either (count_condition s condition scene)
  | list model complex => exact either (findList_condition s model complex condition scene)

theorem agrees_useAll (s : Surroundings σ) {uses : List Use} {condition : Condition} (agrees : condition.paging.Agrees)
    (scene : Scene σ) : (useAll s uses condition scene).1.paging.Agrees := by
  induction uses generalizing condition scene with
  | nil => exact agrees
  | cons use rest ih =>
    rw [useAll, act_bind]
    exact ih (agrees_perform s agrees use scene) _

/-- The stored number of pages fits the pages served, except those of the default size. However a condition is built,
counted and listed by, while it holds a total and asks for pages, the number of pages is that of the total and the
plan's rows, rounded up, exactly if a page size is asked for; and a page starts inside the total exactly if there are
as many pages. -/
theorem stored_pages_fit (s : Surroundings σ) (uses : List Use) {condition : Condition} (agrees : condition.paging.Agrees)
    (scene : Scene σ) :
    let paging := (useAll s uses condition scene).1.paging
    ∀ total plan, paging.total = some total → paging.plan? = some plan →
      ((∃ pages, paging.pages = some pages ∧ pages.toNat = total.toNat ⌈/⌉ plan.count.toNat) ↔ paging.size ≠ 0) ∧
      (paging.isOffset = false → paging.number ≠ 0 →
        (plan.within total = true ↔ paging.number.toNat ≤ total.toNat ⌈/⌉ plan.count.toNat)) := by
  intro paging total plan stored asked
  exact ⟨(agrees_useAll s agrees scene).pages_iff stored asked, Paging.within_plan_iff total asked⟩

/-- Three tokens fill two pages of two. -/
theorem two_pages_of_tokens :
    let condition : Condition := { model := some "Token" }
    let paging := (useAll tokens [.count, .build (.page 2 2)] condition (readingTokens .mysql)).1.paging
    condition.paging.Agrees ∧ paging.total = some 3 ∧ paging.plan? = some ⟨2, 2⟩ ∧ PagePlan.within ⟨2, 2⟩ 3 = true ∧
      ∃ pages, paging.pages = some pages ∧ pages.toNat = 2 := by
  intro condition paging
  have agrees : condition.paging.Agrees := rfl
  have stored : paging.total = some 3 := rfl
  have asked : paging.plan? = some ⟨2, 2⟩ := by decide
  obtain ⟨pages, inside⟩ :=
    stored_pages_fit tokens [.count, .build (.page 2 2)] agrees (readingTokens .mysql) 3 ⟨2, 2⟩ stored asked
  refine ⟨agrees, stored, asked, (inside rfl (by decide)).mpr ?_, pages.mpr (by decide)⟩
  decide

/-- The first page of tokens is asked for without a size. There are ten places on it, and it starts inside the three
tokens that are counted, but no number of pages is stored. -/
theorem default_page_uncounted :
    let condition : Condition := { model := some "Token" }
    let paging := (useAll tokens [.build (.page 1 0), .count] condition (readingTokens .mysql)).1.paging
    condition.paging.Agrees ∧ paging.total = some 3 ∧ paging.plan? = some ⟨0, 10⟩ ∧ PagePlan.within ⟨0, 10⟩ 3 = true ∧
      paging.isOffset = false ∧ paging.number = 1 ∧ paging.pages = none :=
  ⟨rfl, rfl, by decide, by decide, rfl, rfl, by decide⟩

end Work

end RecordMapper
