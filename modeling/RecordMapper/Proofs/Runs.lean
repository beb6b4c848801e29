import Mathlib.Algebra.Order.Floor.Div
import RecordMapper.Sql.Writes

/-! Lists cut into runs. The runs are the slices of a list one after the other, as many as the quotient of its length by
their size, rounded up; only the last may be shorter than the others. -/

namespace RecordMapper.Statement

variable {size : Nat}

/-- The slice of a list at a place, counted from zero. -/
def runAt (size : Nat) (items : List α) (place : Nat) : List α := (items.drop (place * size)).take size

theorem length_runAt (size : Nat) (items : List α) (place : Nat) :
    (runAt size items place).length = min size (items.length - place * size) := by
  rw [runAt, List.length_take, List.length_drop]

theorem runAt_succ (size : Nat) (items : List α) (place : Nat) :
    runAt size items (place + 1) = runAt size (items.drop size) place := by
  rw [runAt, runAt, List.drop_drop, Nat.succ_mul, Nat.add_comm]

theorem ceilDiv_of_pos (positive : 0 < size) {count : Nat} (some_ : 0 < count) :
    count ⌈/⌉ size = (count - size) ⌈/⌉ size + 1 := by
  have whole : count + size - 1 = count - 1 + size := by omega
  rw [Nat.ceilDiv_eq_add_pred_div, Nat.ceilDiv_eq_add_pred_div, whole, Nat.add_div_right _ positive]
  rcases Nat.lt_or_ge count size with short | long
  · rw [Nat.div_eq_of_lt (by omega), Nat.div_eq_of_lt (by omega)]
  · rw [Nat.sub_add_cancel long]

theorem mul_lt_iff_lt_ceilDiv (positive : 0 < size) {place count : Nat} :
    place * size < count ↔ place < count ⌈/⌉ size := by
  rw [← not_le, ← not_le, ceilDiv_le_iff_le_mul positive, Nat.mul_comm]

theorem runsFrom_eq_map (positive : 0 < size) : ∀ (fuel : Nat) (items : List α), items.length ≤ fuel →
    runsFrom size fuel items = (List.range (items.length ⌈/⌉ size)).map (runAt size items)
  | 0, items, short => by
    obtain rfl : items = [] := List.eq_nil_of_length_eq_zero (by omega)
    simp [runsFrom]
  | fuel + 1, [], _ => by simp [runsFrom]
  | fuel + 1, item :: rest, short => by
    have count : (item :: rest).length ⌈/⌉ size = ((item :: rest).drop size).length ⌈/⌉ size + 1 := by
      rw [List.length_drop, ceilDiv_of_pos positive (by simp)]
    have fewer : ((item :: rest).drop size).length ≤ fuel := by
      rw [List.length_drop]
      omega
    have first : runAt size (item :: rest) 0 = (item :: rest).take size := by simp [runAt]
    rw [runsFrom, runsFrom_eq_map positive fuel _ fewer, count, List.range_succ_eq_map, List.map_cons, List.map_map, first]
    exact congrArg _ (List.map_congr_left fun place _ => (runAt_succ size _ place).symm)

theorem runs_eq_map (positive : 0 < size) (items : List α) :
    runs size items = (List.range (items.length ⌈/⌉ size)).map (runAt size items) :=
  runsFrom_eq_map positive _ items (Nat.le_refl _)

theorem flatten_runsFrom (positive : 0 < size) : ∀ (fuel : Nat) (items : List α), items.length ≤ fuel →
    (runsFrom size fuel items).flatten = items ∧ ∀ run ∈ runsFrom size fuel items, run ≠ []
  | 0, items, short => by
    obtain rfl : items = [] := List.eq_nil_of_length_eq_zero (by omega)
    simp [runsFrom]
  | fuel + 1, [], _ => by simp [runsFrom]
  | fuel + 1, item :: rest, short => by
    have fewer : ((item :: rest).drop size).length ≤ fuel := by
      rw [List.length_drop]
      omega
    obtain ⟨joined, filled⟩ := flatten_runsFrom positive fuel _ fewer
    refine ⟨?_, ?_⟩
    · rw [runsFrom, List.flatten_cons, joined, List.take_append_drop]
    · intro run member
      rw [runsFrom, List.mem_cons] at member
      rcases member with rfl | later
      · simp [List.take_eq_nil_iff]
        omega
      · exact filled run later

theorem flatten_runs (positive : 0 < size) (items : List α) :
    (runs size items).flatten = items ∧ ∀ run ∈ runs size items, run ≠ [] :=
  flatten_runsFrom positive _ items (Nat.le_refl _)

theorem length_run_le (positive : 0 < size) {items run : List α} (member : run ∈ runs size items) :
    run.length ≤ size := by
  rw [runs_eq_map positive] at member
  obtain ⟨place, _, rfl⟩ := List.mem_map.mp member
  rw [length_runAt]
  exact Nat.min_le_left _ _

/-- A run that another one follows is full. -/
theorem length_run_eq (positive : 0 < size) {items run next : List α} {early late : List (List α)}
    (cut : runs size items = early ++ run :: next :: late) : run.length = size := by
  have inside : next ∈ runs size items := by simp [cut]
  have filled := List.length_pos_iff.mpr ((flatten_runs positive items).2 next inside)
  have here : (runs size items)[early.length]? = some run := by simp [cut]
  have there : (runs size items)[early.length + 1]? = some next := by simp [cut]
  rw [runs_eq_map positive, List.getElem?_map, Option.map_eq_some_iff] at here there
  obtain ⟨place, at_, rfl⟩ := here
  obtain ⟨after, at', rfl⟩ := there
  obtain ⟨_, rfl⟩ := List.getElem?_eq_some_iff.mp at_
  obtain ⟨_, rfl⟩ := List.getElem?_eq_some_iff.mp at'
  rw [length_runAt, List.getElem_range, Nat.succ_mul] at filled
  rw [length_runAt, List.getElem_range]
  omega

end RecordMapper.Statement
