import RecordMapper.Proofs.PagedReads
import RecordMapper.Proofs.Runs

/-! Pages of a result. Page by page, all rows are read once, in order; a page starts inside the rows exactly if it has some,
also where the rows to skip are more than a number of 64 bits can say. -/

namespace RecordMapper

/-- Whether the row at a place, counted from zero, is on the page. -/
def PagePlan.covers (plan : PagePlan) (place : Nat) : Prop :=
  plan.offset.toNat ≤ place ∧ place < plan.offset.toNat + plan.count.toNat

theorem PagePlan.within_iff_lt (plan : PagePlan) (total : UInt64) :
    plan.within total = true ↔ plan.offset.toNat < total.toNat := by
  rw [within, Bool.and_eq_true, decide_eq_true_eq, decide_eq_true_eq, UInt64.lt_iff_toNat_lt, UInt64.lt_iff_toNat_lt,
    UInt64.toNat_zero]
  omega

namespace Paging

/-- Rows that a page holds if a size is asked for. -/
def rowsPerPage (size : UInt64) : UInt64 := if size = 0 then defaultSize else size

/-- Pages before the one with a number. -/
def pagesBefore (number : UInt64) : UInt64 := (if number = 0 then 1 else number) - 1

theorem rowsPerPage_pos (size : UInt64) : 0 < (rowsPerPage size).toNat := by
  unfold rowsPerPage
  split
  · decide
  next given =>
    rw [← UInt64.toNat_inj] at given
    exact Nat.pos_of_ne_zero given

theorem toNat_pagesBefore (number : UInt64) : (pagesBefore number).toNat = max number.toNat 1 - 1 := by
  unfold pagesBefore
  split
  next none_ =>
    subst none_
    rfl
  next given =>
    rw [← UInt64.toNat_inj] at given
    have positive : 0 < number.toNat := Nat.pos_of_ne_zero given
    rw [UInt64.toNat_sub_of_le, Nat.max_eq_left positive]
    · rfl
    · exact UInt64.le_iff_toNat_le.mpr positive

theorem plan?_eq_some {paging : Paging} {plan : PagePlan} :
    paging.plan? = some plan ↔ (paging.number ≠ 0 ∨ paging.size ≠ 0) ∧
      plan = ⟨if paging.isOffset then paging.number
        else saturatingMul (pagesBefore paging.number) (rowsPerPage paging.size), rowsPerPage paging.size⟩ := by
  rw [plan?, ← not_and_or]
  split
  next none_ => simp [none_]
  next given =>
    rw [Option.some.injEq, eq_comm]
    exact (and_iff_right given).symm

theorem plan?_page (paging : Paging) {number size : UInt64} (asked : number ≠ 0 ∨ size ≠ 0) :
    (paging.page number size).plan? = some ⟨saturatingMul (pagesBefore number) (rowsPerPage size), rowsPerPage size⟩ :=
  plan?_eq_some.mpr ⟨asked, rfl⟩

theorem plan?_offset (paging : Paging) {start size : UInt64} (asked : start ≠ 0 ∨ size ≠ 0) :
    (paging.offset start size).plan? = some ⟨start, rowsPerPage size⟩ :=
  plan?_eq_some.mpr ⟨asked, rfl⟩

theorem toNat_saturatingMul (a b : UInt64) : (saturatingMul a b).toNat = min (a.toNat * b.toNat) Word.greatest := by
  rw [saturatingMul, UInt64.toNat_ofNat_of_lt']
  exact Nat.lt_of_le_of_lt (Nat.min_le_right _ _) (by decide)

theorem saturatingMul_le_iff (a b : UInt64) {place : Nat} (fits : place < Word.greatest) :
    (saturatingMul a b).toNat ≤ place ↔ a.toNat * b.toNat ≤ place := by
  rw [toNat_saturatingMul]
  omega

theorem drop_saturatingMul (a b : UInt64) {rows : List α} (bound : rows.length < UInt64.size) :
    rows.drop (saturatingMul a b).toNat = rows.drop (a.toNat * b.toNat) := by
  have least : rows.length ≤ Word.greatest := Nat.le_of_lt_succ bound
  rw [toNat_saturatingMul]
  rcases Nat.le_total (a.toNat * b.toNat) Word.greatest with fits | beyond
  · rw [Nat.min_eq_left fits]
  -- A product that does not fit skips all rows, and so does the greatest number in its place.
  · rw [Nat.min_eq_right beyond, List.drop_eq_nil_of_le least, List.drop_eq_nil_of_le (least.trans beyond)]

variable (paging : Paging) {number size : UInt64} {rows : List Row}

theorem pageOf_page (asked : number ≠ 0 ∨ size ≠ 0) (bound : rows.length < UInt64.size) :
    Work.pageOf (paging.page number size).plan? rows =
      Statement.runAt (rowsPerPage size).toNat rows (max number.toNat 1 - 1) := by
  rw [plan?_page paging asked, Work.pageOf, drop_saturatingMul _ _ bound, toNat_pagesBefore]
  rfl

theorem covers_iff {place : Nat} (fits : place < Word.greatest) :
    PagePlan.covers ⟨saturatingMul (pagesBefore number) (rowsPerPage size), rowsPerPage size⟩ place ↔
      place / (rowsPerPage size).toNat = max number.toNat 1 - 1 := by
  have positive := rowsPerPage_pos size
  have start := saturatingMul_le_iff (pagesBefore number) (rowsPerPage size) fits
  have least := toNat_saturatingMul (pagesBefore number) (rowsPerPage size)
  rw [toNat_pagesBefore] at start least
  rw [PagePlan.covers, Nat.div_eq_iff positive]
  dsimp only
  omega

theorem pageOf_ne_nil_iff {plan : PagePlan} (counts : 0 < plan.count.toNat) (bound : rows.length < UInt64.size) :
    plan.within (UInt64.ofNat rows.length) = true ↔ Work.pageOf (some plan) rows ≠ [] := by
  rw [plan.within_iff bound, Work.pageOf, ne_eq, ne_eq, List.take_eq_nil_iff]
  simp [counts.ne']

theorem within_page_iff (number size total : UInt64) :
    PagePlan.within ⟨saturatingMul (pagesBefore number) (rowsPerPage size), rowsPerPage size⟩ total = true ↔
      (max number.toNat 1 - 1) * (rowsPerPage size).toNat < total.toNat := by
  have least : total.toNat ≤ Word.greatest := Nat.le_of_lt_succ total.toNat_lt
  have start := toNat_saturatingMul (pagesBefore number) (rowsPerPage size)
  rw [toNat_pagesBefore] at start
  rw [PagePlan.within_iff_lt]
  dsimp only
  omega

/-- Pages partition the rows, for all sizes. Those from the first to the last, as many as the quotient of the rows by the
size, rounded up, are not empty and are the rows in order, and every row is on one of them. Whichever page is asked for
starts inside the rows exactly if it has some, and so do rows from any start on. -/
theorem pages_partition_rows (size : UInt64) (bound : rows.length < UInt64.size) :
    let perPage := (if size = 0 then defaultSize else size).toNat
    let pages := rows.length ⌈/⌉ perPage
    pages < UInt64.size ∧
    ((List.range' 1 pages).map fun number =>
      Work.pageOf (paging.page (UInt64.ofNat number) size).plan? rows).flatten = rows ∧
    (∀ number ∈ List.range' 1 pages, Work.pageOf (paging.page (UInt64.ofNat number) size).plan? rows ≠ []) ∧
    (∀ place < rows.length, ∃! number, number ∈ List.range' 1 pages ∧
      ∃ plan, (paging.page (UInt64.ofNat number) size).plan? = some plan ∧ plan.covers place) ∧
    (∀ number, number ≠ 0 ∨ size ≠ 0 → ∃ plan,
      (paging.page number size).plan? = some plan ∧ plan.count.toNat = perPage ∧
      (plan.within (UInt64.ofNat rows.length) = true ↔ (max number.toNat 1 - 1) * perPage < rows.length) ∧
      (plan.within (UInt64.ofNat rows.length) = true ↔ Work.pageOf (some plan) rows ≠ [])) ∧
    ∀ start, start ≠ 0 ∨ size ≠ 0 → ∃ plan,
      (paging.offset start size).plan? = some plan ∧
      Work.pageOf (some plan) rows = (rows.drop start.toNat).take perPage ∧
      (plan.within (UInt64.ofNat rows.length) = true ↔ Work.pageOf (some plan) rows ≠ []) := by
  intro perPage pages
  have positive : 0 < perPage := rowsPerPage_pos size
  have fewer : pages ≤ rows.length := (ceilDiv_le_iff_le_mul positive).mpr (Nat.le_mul_of_pos_left _ positive)
  have known {number : Nat} (listed : number ∈ List.range' 1 pages) :
      UInt64.ofNat number ≠ 0 ∧ max (UInt64.ofNat number).toNat 1 - 1 = number - 1 := by
    obtain ⟨positive, small⟩ := List.mem_range'_1.mp listed
    have same : (UInt64.ofNat number).toNat = number := UInt64.toNat_ofNat_of_lt' (by omega)
    refine ⟨fun zero => ?_, by omega⟩
    rw [zero, UInt64.toNat_zero] at same
    omega
  have cut {number : Nat} (listed : number ∈ List.range' 1 pages) :
      Work.pageOf (paging.page (UInt64.ofNat number) size).plan? rows = Statement.runAt perPage rows (number - 1) := by
    obtain ⟨given, before⟩ := known listed
    rw [pageOf_page paging (.inl given) bound, before]
    rfl
  have joined : ((List.range' 1 pages).map fun number =>
      Work.pageOf (paging.page (UInt64.ofNat number) size).plan? rows) = Statement.runs perPage rows := by
    rw [List.map_congr_left fun number listed => cut listed, List.range'_eq_map_range, List.map_map,
      Statement.runs_eq_map positive]
    simp [Function.comp_def, pages]
  obtain ⟨whole, filled⟩ := Statement.flatten_runs positive rows
  refine ⟨by omega, by rw [joined, whole], fun number listed => ?_, fun place inside => ?_, fun number asked => ?_,
    fun start asked => ?_⟩
  · exact filled _ (joined ▸ List.mem_map_of_mem listed)
  -- The row at a place is on the page that the quotient by the size names.
  · have early : place / perPage < pages :=
      (Statement.mul_lt_iff_lt_ceilDiv positive).mp (Nat.lt_of_le_of_lt (Nat.div_mul_le_self place perPage) inside)
    have least : place < Word.greatest := Nat.lt_of_lt_of_le inside (Nat.le_of_lt_succ bound)
    have on {number : Nat} (listed : number ∈ List.range' 1 pages) :
        (∃ plan, (paging.page (UInt64.ofNat number) size).plan? = some plan ∧ plan.covers place) ↔
          place / perPage = number - 1 := by
      obtain ⟨given, before⟩ := known listed
      simp only [plan?_page paging (.inl given), Option.some.injEq, exists_eq_left', covers_iff least, before]
      rfl
    have listed : place / perPage + 1 ∈ List.range' 1 pages := by
      rw [List.mem_range'_1, Nat.add_comm 1 pages]
      exact ⟨Nat.succ_pos _, Nat.succ_lt_succ early⟩
    refine ⟨_, ⟨listed, (on listed).mpr rfl⟩, ?_⟩
    rintro other ⟨among, covered⟩
    have counted := (List.mem_range'_1.mp among).1
    rw [(on among).mp covered, Nat.sub_add_cancel counted]
  · have inside := within_page_iff number size (UInt64.ofNat rows.length)
    rw [UInt64.toNat_ofNat_of_lt' bound] at inside
    exact ⟨_, plan?_page paging asked, rfl, inside, pageOf_ne_nil_iff positive bound⟩
  · exact ⟨_, plan?_offset paging asked, rfl, pageOf_ne_nil_iff positive bound⟩

/-- Three pages of at most two rows are five rows. The last page that can be asked for is beyond them, although the rows to
skip to it are more than a number can say. -/
theorem five_rows_in_pages :
    let rows : List Row := [[("n", .int 1)], [("n", .int 2)], [("n", .int 3)], [("n", .int 4)], [("n", .int 5)]]
    let page (number : UInt64) := Work.pageOf (Paging.page number 2 {}).plan? rows
    rows.length < UInt64.size ∧ page 1 ++ page 2 ++ page 3 = rows ∧ page 3 ≠ [] ∧
    ∃ plan, (Paging.page 18446744073709551615 2 {}).plan? = some plan ∧ plan.offset.toNat = Word.greatest ∧
      plan.within 5 = false := by
  intro rows page
  have bound : rows.length < UInt64.size := by decide
  obtain ⟨_, joined, filled, _, each, _⟩ := pages_partition_rows {} 2 bound
  have numbers : List.range' 1 (rows.length ⌈/⌉ (if (2 : UInt64) = 0 then defaultSize else 2).toNat) = [1, 2, 3] := by
    rw [Nat.ceilDiv_eq_add_pred_div]
    decide
  rw [numbers] at joined filled
  obtain ⟨plan, asked, _, inside, _⟩ := each 18446744073709551615 (.inr (by decide))
  refine ⟨bound, ?_, filled 3 (by simp), plan, asked, ?_, ?_⟩
  · simpa using joined
  · cases asked
    decide
  · rw [← Bool.not_eq_true]
    exact fun starts => absurd (inside.mp starts) (by decide)

end Paging

end RecordMapper
