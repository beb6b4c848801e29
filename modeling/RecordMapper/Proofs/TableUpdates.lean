import RecordMapper.Proofs.Outcomes
import RecordMapper.Relational.Table

/-! Changes of a table's rows that leave the columns alone whose data no two rows share. Such a change keeps the order
of the rows and fails only if a row then lacks what is required, so changes of different rows can be made at once or one
after the other. -/

namespace RecordMapper

namespace Tuple

theorem get_set_of_ne {column name : String} (other : name ≠ column) (datum : Datum) (tuple : Tuple) :
    (tuple.set column datum).get name = tuple.get name := by
  have first : firstNamed? name (tuple.set column datum) = firstNamed? name tuple := by
    induction tuple with
    | nil => rfl
    | cons entry rest ih =>
      obtain ⟨key, old⟩ := entry
      rw [set] at ih ⊢
      by_cases found : key = column
      · simp [firstNamed?, found, other.symm, ih]
      · simp [firstNamed?, found, ih]
  rw [get, get, first]

end Tuple

namespace Table

/-- A table's rows are in order and keep its rules. -/
def Kept (table : Table) : Prop := table.withRows table.rows = .ok table

theorem get_assign {name : String} {columns : List (String × Datum)} (spared : name ∉ columns.map Prod.fst)
    (table : Table) (tuple : Tuple) : (table.assign columns tuple).get name = tuple.get name := by
  induction columns generalizing tuple with
  | nil => rfl
  | cons entry rest ih =>
    obtain ⟨column, datum⟩ := entry
    simp only [List.map_cons, List.mem_cons, not_or] at spared
    simp only [assign, List.foldl_cons]
    refine (ih spared.2 _).trans ?_
    split
    · exact Tuple.get_set_of_ne spared.1 _ _
    · rfl

theorem forIn_eq_ok {names : List String} {bad : String → Bool} {cause : String → Fault} {result : PUnit} :
    (forIn names PUnit.unit fun name _ =>
      if bad name = true then throw (cause name) >>= fun (_ : PUnit) => pure (ForInStep.yield PUnit.unit)
      else pure (ForInStep.yield PUnit.unit) : Except Fault PUnit) = .ok result ↔ ∀ name ∈ names, bad name = false := by
  induction names with
  | nil => simp [pure, Except.pure]
  | cons name rest ih =>
    rw [List.forIn_cons]
    cases refused : bad name <;> simp_all [bind, Except.bind, throw, throwThe, MonadExceptOf.throw, pure, Except.pure]

theorem checkRequired_eq_ok {table : Table} {rows : List Tuple} {result : Unit} :
    table.checkRequired rows = .ok result ↔ ∀ row ∈ rows, table.lacking? row = none := by
  rw [checkRequired]
  cases found : rows.findSome? table.lacking? with
  | none => simpa using found
  | some column =>
    have missing : ¬ ∀ row ∈ rows, table.lacking? row = none := by
      rw [← List.findSome?_eq_none_iff, found]
      nofun
    simpa using missing

/-- When a table takes rows, and how it holds them. -/
theorem withRows_eq_ok {table changed : Table} {rows : List Tuple} :
    table.withRows rows = .ok changed ↔
      (∀ row ∈ rows, isInt (row.get table.rowKey.name) = true) ∧ (∀ row ∈ rows, table.lacking? row = none) ∧
      (∀ name ∈ table.uniqueNames,
        repeats ((sortedBy name (sortedBy table.rowKey.name rows)).map (Tuple.get name)) = false) ∧
      changed = { table with rows := sortedBy table.rowKey.name rows } := by
  simp only [withRows, Outcome.guarded_eq_ok, Outcome.bind_eq_ok, Outcome.pure_eq_ok, checkRequired_eq_ok, forIn_eq_ok]
  have numbered : (¬(rows.any fun row => !isInt (row.get table.rowKey.name)) = true) ↔
      ∀ row ∈ rows, isInt (row.get table.rowKey.name) = true := by simp
  rw [numbered]
  constructor
  · rintro ⟨ints, _, required, _, unique, rfl⟩
    exact ⟨ints, required, unique, rfl⟩
  · rintro ⟨ints, required, unique, rfl⟩
    exact ⟨ints, ⟨⟩, required, ⟨⟩, unique, rfl⟩

theorem rowKey_mem (table : Table) : table.rowKey.name ∈ table.uniqueNames := by simp [uniqueNames]

theorem sortedBy_map {name : String} {change : Tuple → Tuple} (same : ∀ row, (change row).get name = row.get name)
    (rows : List Tuple) : sortedBy name (rows.map change) = (sortedBy name rows).map change := by
  rw [sortedBy, sortedBy]
  exact (List.map_mergeSort fun a _ b _ => by simp [same]).symm

section

variable {table changed : Table} (kept : table.Kept)
include kept

/-- Rows may be changed but for what no two share, as long as they then have what is required. -/
theorem withRows_map {change : Tuple → Tuple}
    (same : ∀ row, ∀ name ∈ table.uniqueNames, (change row).get name = row.get name) :
    table.withRows (table.rows.map change) = .ok changed ↔
      (∀ row ∈ table.rows, table.lacking? (change row) = none) ∧
        changed = { table with rows := table.rows.map change } := by
  obtain ⟨numbered, _, unique, held⟩ := withRows_eq_ok.mp kept
  -- The table is what its own rows give, so they are in order already.
  have sorted : sortedBy table.rowKey.name table.rows = table.rows := congrArg Table.rows held.symm
  rw [sorted] at unique
  have number (row : Tuple) : (change row).get table.rowKey.name = row.get table.rowKey.name :=
    same row _ table.rowKey_mem
  have data (name : String) (shared : name ∈ table.uniqueNames) :
      (sortedBy name (table.rows.map change)).map (Tuple.get name) = (sortedBy name table.rows).map (Tuple.get name) := by
    rw [sortedBy_map (fun row => same row name shared), List.map_map]
    exact List.map_congr_left fun row _ => same row name shared
  rw [withRows_eq_ok, sortedBy_map number, sorted]
  constructor
  · rintro ⟨_, required, _, rfl⟩
    exact ⟨by simpa using required, rfl⟩
  · rintro ⟨required, rfl⟩
    refine ⟨?_, by simpa using required, fun name shared => ?_, rfl⟩
    · simpa [number] using numbered
    · rw [data name shared]
      exact unique name shared

end

/-- One row after a change of the rows that are chosen. -/
def updatedRow (chosen : Tuple → Bool) (change : Tuple → List (String × Datum)) (table : Table) (row : Tuple) : Tuple :=
  if chosen row then table.assign (change row) row else row

section

variable {table changed : Table} {chosen : Tuple → Bool} {change : Tuple → List (String × Datum)}
  (spares : ∀ row, ∀ name ∈ table.uniqueNames, name ∉ (change row).map Prod.fst)
include spares

theorem get_updatedRow (row : Tuple) {name : String} (unique : name ∈ table.uniqueNames) :
    (table.updatedRow chosen change row).get name = row.get name := by
  rw [updatedRow]
  split
  · exact get_assign (spares row name unique) _ _
  · rfl

/-- A change of the rows that are chosen fails only if one of them then lacks what is required. -/
theorem updateRows_eq_ok {count : Nat} (kept : table.Kept) :
    table.updateRows chosen change = .ok (count, changed) ↔
      (∀ row ∈ table.rows, table.lacking? (table.updatedRow chosen change row) = none) ∧
        count = table.rows.countP chosen ∧
        changed = { table with rows := table.rows.map (table.updatedRow chosen change) } := by
  have rows : (table.rows.map fun row => if chosen row then table.assign (change row) row else row) =
      table.rows.map (table.updatedRow chosen change) := rfl
  simp only [updateRows, Outcome.bind_eq_ok, Outcome.pure_eq_ok, rows, ← List.countP_eq_length_filter,
    withRows_map kept fun row _ unique => get_updatedRow spares row unique]
  constructor
  · rintro ⟨_, ⟨required, rfl⟩, same⟩
    cases same
    exact ⟨required, rfl, rfl⟩
  · rintro ⟨required, rfl, rfl⟩
    exact ⟨_, ⟨required, rfl⟩, rfl⟩

theorem Kept.updateRows {count : Nat} (kept : table.Kept)
    (made : table.updateRows chosen change = .ok (count, changed)) : changed.Kept := by
  obtain ⟨required, _, rfl⟩ := (updateRows_eq_ok spares kept).mp made
  have held := (withRows_map kept fun row _ unique => get_updatedRow spares row unique).mpr ⟨required, rfl⟩
  exact held

end

/-- New data for the rows that are chosen by what they hold in one column. -/
structure KeyedChange where
  chosen : Datum → Bool
  data : Datum → List (String × Datum)

namespace KeyedChange

/-- Either change; the first one if a row is chosen by both. -/
def either (first later : KeyedChange) : KeyedChange where
  chosen datum := first.chosen datum || later.chosen datum
  data datum := if first.chosen datum then first.data datum else later.data datum

/-- No data are given for a column whose data no two rows share. -/
def Spares (change : KeyedChange) (table : Table) : Prop :=
  ∀ datum, ∀ name ∈ table.uniqueNames, name ∉ (change.data datum).map Prod.fst

theorem Spares.either {first later : KeyedChange} {table : Table} (spares : first.Spares table)
    (other : later.Spares table) : (first.either later).Spares table := by
  intro datum name unique
  rw [KeyedChange.either]
  dsimp only
  split
  · exact spares datum name unique
  · exact other datum name unique

end KeyedChange

/-- Gives the rows that a column chooses their new data, and counts them. -/
def updateKeyed (table : Table) (key : String) (change : KeyedChange) : Except Fault (Nat × Table) :=
  table.updateRows (fun row => change.chosen (row.get key)) fun row => change.data (row.get key)

/-- One row after a change. -/
def changedRow (table : Table) (key : String) (change : KeyedChange) (row : Tuple) : Tuple :=
  if change.chosen (row.get key) then table.assign (change.data (row.get key)) row else row

/-- What the rows hold in a column. -/
def dataIn (table : Table) (key : String) : List Datum := table.rows.map (Tuple.get key)

theorem get_changedRow {table : Table} {change : KeyedChange} (spares : change.Spares table) (key : String)
    (row : Tuple) {name : String} (unique : name ∈ table.uniqueNames) :
    (table.changedRow key change row).get name = row.get name := by
  rw [changedRow]
  split
  · exact get_assign (spares _ name unique) _ _
  · rfl

section

variable {table changed : Table} {key : String} {change first later : KeyedChange} {count : Nat}

/-- A change fails only if a row then lacks what is required. -/
theorem updateKeyed_eq_ok (kept : table.Kept) (spares : change.Spares table) :
    table.updateKeyed key change = .ok (count, changed) ↔
      (∀ row ∈ table.rows, table.lacking? (table.changedRow key change row) = none) ∧
        count = (table.dataIn key).countP change.chosen ∧
        changed = { table with rows := table.rows.map (table.changedRow key change) } := by
  have counted : (table.dataIn key).countP change.chosen = table.rows.countP fun row => change.chosen (row.get key) := by
    rw [dataIn, List.countP_map]
    rfl
  rw [counted]
  exact updateRows_eq_ok (fun row => spares (row.get key)) kept

theorem Kept.updateKeyed (kept : table.Kept) (spares : change.Spares table)
    (made : table.updateKeyed key change = .ok (count, changed)) : changed.Kept :=
  kept.updateRows (fun row => spares (row.get key)) made

/-- A change leaves it open which rows another one chooses. -/
theorem dataIn_changed (keyed : key ∈ table.uniqueNames) (spares : change.Spares table) :
    dataIn { table with rows := table.rows.map (table.changedRow key change) } key = table.dataIn key := by
  rw [dataIn, dataIn, List.map_map]
  exact List.map_congr_left fun row _ => get_changedRow spares key row keyed

/-- Two changes count together what either of them chooses, and once more what both choose. -/
theorem countP_either (first later : KeyedChange) (data : List Datum) :
    data.countP (first.either later).chosen + data.countP (fun datum => first.chosen datum && later.chosen datum) =
      data.countP first.chosen + data.countP later.chosen := by
  simp only [KeyedChange.either]
  induction data with
  | nil => rfl
  | cons datum rest ih =>
    simp only [List.countP_cons]
    cases first.chosen datum <;> cases later.chosen datum <;> simp <;> omega

theorem Kept.lacking (kept : table.Kept) : ∀ row ∈ table.rows, table.lacking? row = none := (withRows_eq_ok.mp kept).2.1

/-- A row that only one of two changes chooses is the same after either of them as after one and then the other. -/
theorem changedRow_either {row : Tuple} (keyed : key ∈ table.uniqueNames) (spares : first.Spares table)
    (apart : (first.chosen (row.get key) && later.chosen (row.get key)) = false) :
    table.changedRow key (first.either later) row = table.changedRow key later (table.changedRow key first row) ∧
      (table.changedRow key first row = row ∨
        table.changedRow key (first.either later) row = table.changedRow key first row) := by
  have same := get_changedRow spares key row keyed
  rw [changedRow, changedRow, same]
  simp only [changedRow, KeyedChange.either]
  by_cases here : first.chosen (row.get key) = true
  · have unchosen : later.chosen (row.get key) = false := by simpa [here] using apart
    simp [here, unchosen]
  · simp [here]

/-- Two changes that choose no row both can be made at once. -/
theorem updateKeyed_either (kept : table.Kept) (keyed : key ∈ table.uniqueNames) (spares : first.Spares table)
    (other : later.Spares table)
    (apart : ∀ datum ∈ table.dataIn key, (first.chosen datum && later.chosen datum) = false) :
    table.updateKeyed key (first.either later) = .ok (count, changed) ↔
      ∃ part middle more, table.updateKeyed key first = .ok (part, middle) ∧
        middle.updateKeyed key later = .ok (more, changed) ∧ count = part + more := by
  have both (row : Tuple) (member : row ∈ table.rows) :=
    changedRow_either keyed spares (apart _ (List.mem_map_of_mem member))
  have none_ : (table.dataIn key).countP (fun datum => first.chosen datum && later.chosen datum) = 0 :=
    List.countP_eq_zero.mpr fun datum member => by simp [apart datum member]
  have counted : (table.dataIn key).countP (first.either later).chosen =
      (table.dataIn key).countP first.chosen + (table.dataIn key).countP later.chosen := by
    rw [← countP_either, none_, Nat.add_zero]
  have rows : table.rows.map (table.changedRow key (first.either later)) =
      (table.rows.map (table.changedRow key first)).map (table.changedRow key later) := by
    rw [List.map_map]
    exact List.map_congr_left fun row member => (both row member).1
  rw [updateKeyed_eq_ok kept (spares.either other)]
  constructor
  · rintro ⟨required, rfl, rfl⟩
    have early : ∀ row ∈ table.rows, table.lacking? (table.changedRow key first row) = none := by
      intro row member
      -- A row after the first change is the old one or the one after both.
      rcases (both row member).2 with same | same
      · rw [same]
        exact kept.lacking row member
      · rw [← same]
        exact required row member
    have made := (updateKeyed_eq_ok kept spares).mpr ⟨early, rfl, rfl⟩
    refine ⟨_, _, _, made, (updateKeyed_eq_ok (kept.updateKeyed spares made) other).mpr ⟨?_, rfl, ?_⟩, ?_⟩
    · intro row member
      obtain ⟨old, inside, rfl⟩ := List.mem_map.mp member
      have filled := required old inside
      rw [(both old inside).1] at filled
      exact filled
    · rw [rows]
      rfl
    · rw [counted, dataIn_changed keyed spares]
  · rintro ⟨part, middle, more, made, next, rfl⟩
    have keptMiddle := kept.updateKeyed spares made
    obtain ⟨early, rfl, rfl⟩ := (updateKeyed_eq_ok kept spares).mp made
    obtain ⟨late, rfl, rfl⟩ := (updateKeyed_eq_ok keptMiddle other).mp next
    refine ⟨fun row member => ?_, ?_, ?_⟩
    · rw [(both row member).1]
      exact late _ (List.mem_map_of_mem member)
    · rw [counted, dataIn_changed keyed spares]
    · rw [rows]
      rfl

end

end Table

end RecordMapper
