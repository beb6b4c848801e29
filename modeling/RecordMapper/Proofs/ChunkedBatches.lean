import RecordMapper.Proofs.StatementOutcomes
import RecordMapper.Proofs.StoredObjects
import RecordMapper.Proofs.UpdateTexts

/-! Batches split into several statements. The records of the statements are the runs of the batch, in order; no statement
binds more values than a dialect allows, and only the last one could bind those of another record. -/

namespace RecordMapper

/-- A record that insertion can bind. -/
def Metadata.Insertable (metadata : Metadata) (record : Record) : Prop :=
  ∀ field ∈ metadata.columns, metadata.valueOf record field = .ok (metadata.valueIn record field)

/-- The values that an insertion binds for a record. -/
def Metadata.rowIn (metadata : Metadata) (record : Record) : List Value := metadata.columns.map (metadata.valueIn record)

namespace Statement
open Outcome

/-- Statements that a batch of records is split into. Each is the statement of one run of the records, and whichever
record of the batch is added to a run that another one follows, the run's statement would bind too many values. -/
structure Chunks (make : List Record → Outcome Statement) (most : Nat) (records : List Record)
    (runs : List (List Record)) (statements : List Statement) : Prop where
  joined : runs.flatten = records
  filled : ∀ run ∈ runs, run ≠ []
  made : List.Forall₂ (fun run statement => make run = .ok statement) runs statements
  bounded : ∀ statement ∈ statements, statement.params.length ≤ most
  full : ∀ {early run next late}, runs = early ++ run :: next :: late → ∀ record ∈ records,
    ∃ more, make (run ++ [record]) = .ok more ∧ most < more.params.length

/-- A statement can be made for several records exactly if one can be made for each of them alone, and each record binds
the same number of values. -/
structure Rowwise (make : List Record → Outcome Statement) (width : Nat) : Prop where
  each : ∀ {records}, records ≠ [] →
    ((∃ statement, make records = .ok statement) ↔ ∀ record ∈ records, ∃ statement, make [record] = .ok statement)
  length_params : ∀ {records statement}, make records = .ok statement → statement.params.length = records.length * width

namespace Rowwise

variable {make : List Record → Outcome Statement} {width most : Nat} {records : List Record}

theorem made_of_subset (rowwise : Rowwise make width) {whole : Statement} (made : make records = .ok whole)
    {part : List Record} (some_ : part ≠ []) (inside : part ⊆ records) : ∃ statement, make part = .ok statement := by
  have present : records ≠ [] := fun none_ => some_ (List.subset_nil.mp (none_ ▸ inside))
  exact (rowwise.each some_).mpr fun record member => (rowwise.each present).mp ⟨whole, made⟩ record (inside member)

theorem runs_succeed (rowwise : Rowwise make width) {size : Nat} (positive : 0 < size) (some_ : records ≠ []) :
    (∃ statements, (runs size records).mapM make = .ok statements) ↔ ∃ statement, make records = .ok statement := by
  obtain ⟨joined, filled⟩ := flatten_runs positive records
  rw [mapM_succeeds]
  constructor
  · intro made
    rw [rowwise.each some_]
    intro record member
    rw [← joined] at member
    obtain ⟨run, listed, inside⟩ := List.mem_flatten.mp member
    exact (rowwise.each (filled run listed)).mp (made run listed) record inside
  · rintro ⟨whole, made⟩ run listed
    refine rowwise.made_of_subset made (filled run listed) fun record inside => ?_
    rw [← joined]
    exact List.mem_flatten.mpr ⟨run, listed, inside⟩

theorem chunks (rowwise : Rowwise make width) (positive : 0 < width) (fits : width ≤ most) (some_ : records ≠ [])
    {statements : List Statement} (made : (runs (rowsPerStatement most width) records).mapM make = .ok statements) :
    Chunks make most records (runs (rowsPerStatement most width) records) statements := by
  have room : 0 < most / width := Nat.div_pos fits positive
  have size : rowsPerStatement most width = most / width := by
    rw [rowsPerStatement, Nat.max_eq_left positive, Nat.max_eq_left room]
  rw [size] at made ⊢
  obtain ⟨joined, filled⟩ := flatten_runs room records
  obtain ⟨whole, atOnce⟩ := (rowwise.runs_succeed room some_).mp ⟨statements, made⟩
  have each := mapM_eq_ok.mp made
  refine ⟨joined, filled, each, fun statement member => ?_, fun {early run next late} cut record member => ?_⟩
  · obtain ⟨place, inside, rfl⟩ := List.getElem_of_mem member
    have within : place < (runs (most / width) records).length := by rwa [each.length_eq]
    calc statements[place].params.length
        = (runs (most / width) records)[place].length * width := rowwise.length_params (each.get within inside)
      _ ≤ most / width * width := Nat.mul_le_mul_right width (length_run_le room (List.getElem_mem within))
      _ ≤ most := Nat.div_mul_le_self most width
  -- A run that another one follows is full, so that one record more is one row too many.
  · have inside : run ++ [record] ⊆ records := by
      refine List.append_subset.mpr ⟨fun other held => ?_, by simpa using member⟩
      rw [← joined, cut]
      exact List.mem_flatten.mpr ⟨run, by simp, held⟩
    obtain ⟨more, made⟩ := rowwise.made_of_subset atOnce (by simp) inside
    refine ⟨more, made, ?_⟩
    rw [rowwise.length_params made, List.length_append, length_run_eq room cut, List.length_singleton, Nat.mul_comm]
    exact Nat.lt_mul_div_succ most positive

end Rowwise

section

variable {database : Option String} {metadata : Metadata}

theorem params_insertRows (table : TableRef) (columns : List String) (rows : List (List Value)) :
    params ⟨.insert table columns rows, []⟩ = rows.flatten := by
  have names : Piece.params (Piece.separated ", " (columns.map fun column => [.name column])) = [] := by
    rw [Piece.params_separated, List.flatMap_map]
    exact List.flatMap_eq_nil_iff.mpr fun _ _ => rfl
  have values : Piece.params (Piece.separated ", " (rows.map Piece.slots)) = rows.flatten := by
    rw [Piece.params_separated, List.flatMap_map]
    simp only [Piece.params_slots]
    exact List.flatMap_id'
  have whole : params ⟨.insert table columns rows, []⟩ = Piece.params (.fixed "INSERT INTO " :: (table.pieces ++
      .fixed " (" :: (Piece.separated ", " (columns.map fun column => [.name column]) ++ .fixed ") VALUES " ::
        Piece.separated ", " (rows.map Piece.slots)))) ++ [] := rfl
  have silent : Piece.params table.pieces = [] := Piece.silent_value.table table
  rw [whole, List.append_nil, Piece.params_fixed, Piece.params_append, silent, List.nil_append, Piece.params_fixed,
    Piece.params_append, names, List.nil_append, Piece.params_fixed, values]

theorem valuesOf_eq_ok_map {record : Record} {values : List Value} :
    metadata.valuesOf record metadata.columns = .ok values ↔
      metadata.Insertable record ∧ values = metadata.rowIn record := by
  rw [Metadata.valuesOf, mapM_eq_ok_map fun _ _ => valueOf_eq_ok]
  rfl

theorem insert_eq_ok_map {records : List Record} {statement : Statement} :
    insert database metadata records = .ok statement ↔
      records ≠ [] ∧ (∀ record ∈ records, metadata.Insertable record) ∧
        ∃ table, TableRef.make database metadata.table = .ok table ∧
          statement = ⟨.insert table (metadata.columns.map Field.column)
            (records.map metadata.rowIn), []⟩ := by
  rw [insert_eq_ok]
  simp only [mapM_eq_ok_map fun _ _ => valuesOf_eq_ok_map]
  constructor
  · rintro ⟨_, table, some_, ⟨bound, rfl⟩, within, rfl⟩
    exact ⟨some_, bound, table, within, rfl⟩
  · rintro ⟨some_, bound, table, within, rfl⟩
    exact ⟨_, table, some_, ⟨bound, rfl⟩, within, rfl⟩

theorem rowwise_insert : Rowwise (insert database metadata) metadata.columns.length where
  each {records} some_ := by
    simp only [insert_eq_ok_map]
    constructor
    · rintro ⟨_, _, bound, table, within, _⟩ record member
      refine ⟨_, by simp, ?_, table, within, rfl⟩
      simpa using bound record member
    · intro each
      obtain ⟨record, member⟩ := List.exists_mem_of_ne_nil records some_
      obtain ⟨_, _, _, table, within, _⟩ := each record member
      refine ⟨_, some_, fun other inside => ?_, table, within, rfl⟩
      obtain ⟨_, _, bound, _⟩ := each other inside
      simpa using bound
  length_params {records statement} made := by
    obtain ⟨_, _, table, _, rfl⟩ := insert_eq_ok_map.mp made
    rw [params_insertRows, List.length_flatten, List.map_map]
    simp [Function.comp_def, Metadata.rowIn]

theorem rowwise_updateBatch : Rowwise (updateBatch database metadata) (2 * metadata.dataColumns.length + 1) where
  each {records} some_ := by
    simp only [updateBatch_eq_ok]
    constructor
    · rintro ⟨_, _, data, updatable, table, within, _⟩ record member
      refine ⟨_, by simp, data, ?_, table, within, rfl⟩
      simpa using updatable record member
    · intro each
      obtain ⟨record, member⟩ := List.exists_mem_of_ne_nil records some_
      obtain ⟨_, _, data, _, table, within, _⟩ := each record member
      refine ⟨_, some_, data, fun other inside => ?_, table, within, rfl⟩
      obtain ⟨_, _, _, updatable, _⟩ := each other inside
      simpa using updatable
  length_params {records statement} made := by
    obtain ⟨_, _, _, table, _, rfl⟩ := updateBatch_eq_ok.mp made
    rw [params_updateOf]
    simp only [List.length_append, List.length_flatMap, List.length_map, List.map_const', List.sum_replicate_nat,
      List.length_cons, List.length_nil]
    rw [Nat.mul_comm metadata.dataColumns.length, Nat.mul_assoc, Nat.zero_add, Nat.mul_succ]

theorem params_insert {records : List Record} {statement : Statement}
    (made : insert database metadata records = .ok statement) :
    statement.params = records.flatMap metadata.rowIn := by
  obtain ⟨_, _, table, _, rfl⟩ := insert_eq_ok_map.mp made
  rw [params_insertRows, List.flatMap_def]

theorem flatMap_params_insert {runs : List (List Record)} {statements : List Statement}
    (made : List.Forall₂ (fun run statement => insert database metadata run = .ok statement) runs statements) :
    statements.flatMap params = runs.flatten.flatMap metadata.rowIn := by
  induction made with
  | nil => rfl
  | cons first _ ih => rw [List.flatMap_cons, List.flatten_cons, List.flatMap_append, params_insert first, ih]

theorem insertChunked_ok {most : Nat} {records : List Record} {statements : List Statement}
    (made : insertChunked most database metadata records = .ok statements) :
    ∃ (table : TableRef) (batches : List (List Record)), TableRef.make database metadata.table = .ok table ∧
      batches.flatten = records ∧ (∀ record ∈ records, metadata.Insertable record) ∧
      statements = batches.map fun batch => ⟨.insert table (metadata.columns.map Field.column)
        (batch.map metadata.rowIn), []⟩ := by
  cases records with
  | nil => cases made
  | cons first rest =>
    have room : 0 < rowsPerStatement most metadata.columns.length := Nat.le_max_right _ 1
    obtain ⟨whole, atOnce⟩ := (rowwise_insert.runs_succeed room (List.cons_ne_nil first rest)).mp ⟨statements, made⟩
    obtain ⟨_, insertable, table, within, _⟩ := insert_eq_ok_map.mp atOnce
    -- All batches are inserted into the table that the whole batch is.
    have stepwise (batch : List Record) (statement : Statement) : insert database metadata batch = .ok statement ↔
        (batch ≠ [] ∧ ∀ record ∈ batch, metadata.Insertable record) ∧
          statement = ⟨.insert table (metadata.columns.map Field.column)
            (batch.map metadata.rowIn), []⟩ := by
      rw [insert_eq_ok_map, within, ← and_assoc]
      simp only [Except.ok.injEq, exists_eq_left']
    exact ⟨table, _, within, (flatten_runs room _).1, insertable, ((mapM_eq_ok_map stepwise).mp made).2⟩

end

theorem columns_ne_nil {model : Model α} {metadata : Metadata} (described : model.metadata = .ok metadata) :
    metadata.columns ≠ [] := by
  obtain ⟨_, _, _, _, key, checked, _⟩ := Model.metadata_eq_ok described
  obtain ⟨found, stored, _⟩ := Model.checkedKey_eq_ok.mp checked
  exact List.ne_nil_of_mem (Metadata.mem_columns.mpr ⟨List.mem_of_find?_eq_some found, stored⟩)

/-- A batch is split into chunks, provided that the values of one record fit a statement, and exactly if one statement
could be made of it. Together the chunks of an insertion bind what the one statement binds: record after record, and of
each the columns in order. -/
theorem chunks_partition_batch {model : Model α} {metadata : Metadata} (described : model.metadata = .ok metadata)
    (dialect : Dialect) (database : Option String) {records : List Record} (some_ : records ≠ []) :
    (metadata.columns.length ≤ dialect.maxParams →
      ((∃ statements, insertChunked dialect.maxParams database metadata records = .ok statements) ↔
        ∃ whole, insert database metadata records = .ok whole) ∧
      ∀ statements, insertChunked dialect.maxParams database metadata records = .ok statements →
        (∃ runs, Chunks (insert database metadata) dialect.maxParams records runs statements) ∧
        ∃ whole rows, insert database metadata records = .ok whole ∧
          records.mapM (fun record => metadata.columns.mapM (metadata.valueOf record)) = .ok rows ∧
          whole.params = rows.flatten ∧ statements.flatMap params = whole.params) ∧
    (2 * metadata.dataColumns.length + 1 ≤ dialect.maxParams →
      ((∃ statements, updateBatchChunked dialect.maxParams database metadata records = .ok statements) ↔
        ∃ whole, updateBatch database metadata records = .ok whole) ∧
      ∀ statements, updateBatchChunked dialect.maxParams database metadata records = .ok statements →
        ∃ runs, Chunks (updateBatch database metadata) dialect.maxParams records runs statements) := by
  have present : records.isEmpty = false := List.isEmpty_eq_false_iff.mpr some_
  have room (width : Nat) : 0 < rowsPerStatement dialect.maxParams width := Nat.le_max_right _ 1
  simp only [insertChunked, updateBatchChunked, present, Bool.false_eq_true, if_false]
  refine ⟨fun fits => ⟨rowwise_insert.runs_succeed (room _) some_, fun statements made => ?_⟩,
    fun fits => ⟨rowwise_updateBatch.runs_succeed (room _) some_, fun statements made =>
      ⟨_, rowwise_updateBatch.chunks (Nat.succ_pos _) fits some_ made⟩⟩⟩
  have wide := List.length_pos_iff.mpr (columns_ne_nil described)
  have chunks := rowwise_insert.chunks wide fits some_ made
  obtain ⟨whole, atOnce⟩ := (rowwise_insert.runs_succeed (room _) some_).mp ⟨statements, made⟩
  obtain ⟨rows, table, _, bound, _, rfl⟩ := insert_eq_ok.mp atOnce
  refine ⟨⟨_, chunks⟩, _, rows, atOnce, bound, params_insertRows table _ rows, ?_⟩
  rw [flatMap_params_insert chunks.made, chunks.joined, params_insert atOnce]

/-- Three counters, where a statement may bind five values: two of them fit an insertion, and one an update. -/
theorem three_counts_chunked :
    let records : List Record :=
      [[("id", .int 1), ("count", .int 5)], [("id", .int 2), ("count", .int 6)], [("id", .int 3), ("count", .int 7)]]
    counter.metadata = .ok counterMetadata ∧ records ≠ [] ∧
    (∃ first second, insertChunked 5 none counterMetadata records = .ok [first, second] ∧
      [first, second].flatMap params = [.int 1, .int 5, .int 2, .int 6, .int 3, .int 7] ∧
      ∃ runs, Chunks (insert none counterMetadata) 5 records runs [first, second]) ∧
    ∃ first second third, updateBatchChunked 5 none counterMetadata records = .ok [first, second, third] ∧
      ∃ runs, Chunks (updateBatch none counterMetadata) 5 records runs [first, second, third] := by
  intro records
  have described : counter.metadata = .ok counterMetadata := rfl
  have some_ : records ≠ [] := nofun
  obtain ⟨inserts, updates⟩ := chunks_partition_batch described (.numbered 5) none some_
  have split : insertChunked 5 none counterMetadata records = .ok
      [⟨.insert ⟨none, "counter"⟩ ["id", "count"] [[.int 1, .int 5], [.int 2, .int 6]], []⟩,
        ⟨.insert ⟨none, "counter"⟩ ["id", "count"] [[.int 3, .int 7]], []⟩] := rfl
  have changed : updateBatchChunked 5 none counterMetadata records = .ok
      [⟨.updateByKey ⟨none, "counter"⟩ "id" [("count", [(.int 1, .int 5)])] [.int 1], []⟩,
        ⟨.updateByKey ⟨none, "counter"⟩ "id" [("count", [(.int 2, .int 6)])] [.int 2], []⟩,
        ⟨.updateByKey ⟨none, "counter"⟩ "id" [("count", [(.int 3, .int 7)])] [.int 3], []⟩] := rfl
  obtain ⟨chunks, _, rows, _, bound, flat, joined⟩ := (inserts (by decide)).2 _ split
  cases (show _ = Except.ok [[Value.int 1, .int 5], [.int 2, .int 6], [.int 3, .int 7]] from rfl).symm.trans bound
  exact ⟨described, some_, ⟨_, _, split, joined.trans flat, chunks⟩,
    _, _, _, changed, (updates (by decide)).2 _ changed⟩

end Statement

end RecordMapper
