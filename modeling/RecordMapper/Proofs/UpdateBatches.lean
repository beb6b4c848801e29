import RecordMapper.Proofs.Outcomes
import RecordMapper.Proofs.Runs
import RecordMapper.Proofs.StatementOutcomes

/-! Updates of a batch of records. Which update a batch becomes depends on each record alone, so every part of a batch
that can be updated can be updated too. -/

namespace RecordMapper

namespace Metadata

/-- The key that an update binds for a record. -/
def keyIn (metadata : Metadata) (record : Record) : Value :=
  match Statement.updateKey metadata record with
  | .ok key => key
  | .error _ => .null

/-- The new value that an update binds for a column of a record. -/
def valueIn (metadata : Metadata) (record : Record) (field : Field) : Value :=
  match metadata.valueOf record field with
  | .ok value => value
  | .error _ => .null

/-- A record that an update can bind: it has a key, and its values are of the columns' kinds. -/
structure Updatable (metadata : Metadata) (record : Record) : Prop where
  key : Statement.updateKey metadata record = .ok (metadata.keyIn record)
  values : ∀ field ∈ metadata.dataColumns, metadata.valueOf record field = .ok (metadata.valueIn record field)

end Metadata

namespace Statement
open Outcome

variable {metadata : Metadata}

theorem updateKey_eq_ok {record : Record} {key : Value} :
    updateKey metadata record = .ok key ↔
      updateKey metadata record = .ok (metadata.keyIn record) ∧ key = metadata.keyIn record := by
  unfold Metadata.keyIn
  cases updateKey metadata record <;> simp [eq_comm]

theorem valueOf_eq_ok {record : Record} {field : Field} {value : Value} :
    metadata.valueOf record field = .ok value ↔
      metadata.valueOf record field = .ok (metadata.valueIn record field) ∧ value = metadata.valueIn record field := by
  unfold Metadata.valueIn
  cases metadata.valueOf record field <;> simp [eq_comm]

/-- The choices on the key that an update of a batch makes for a column. -/
def armsOf (metadata : Metadata) (records : List Record) (field : Field) : List (Value × Value) :=
  records.map fun record => (metadata.keyIn record, metadata.valueIn record field)

/-- The update of a batch of records that it can bind. -/
def updateOf (metadata : Metadata) (table : TableRef) (records : List Record) : Statement :=
  ⟨.updateByKey table metadata.keyColumn
    (metadata.dataColumns.map fun field => (field.column, armsOf metadata records field))
    (records.map metadata.keyIn), []⟩

theorem updateArms_eq_ok {records : List Record} {field : Field} {arms : String × List (Value × Value)} :
    updateArms metadata (records.zip (records.map metadata.keyIn)) field = .ok arms ↔
      (∀ record ∈ records, metadata.valueOf record field = .ok (metadata.valueIn record field)) ∧
        arms = (field.column, armsOf metadata records field) := by
  have pairs : records.zip (records.map metadata.keyIn) = records.map fun record => (record, metadata.keyIn record) := by
    simpa using List.zip_map' (f := id) (g := metadata.keyIn) (l := records)
  have each (record : Record) (arm : Value × Value) :
      (do let value ← metadata.valueOf record field; return (metadata.keyIn record, value) : Outcome _) = .ok arm ↔
        metadata.valueOf record field = .ok (metadata.valueIn record field) ∧
          arm = (metadata.keyIn record, metadata.valueIn record field) := by
    simp only [Outcome.bind_eq_ok, Outcome.pure_eq_ok]
    constructor
    · rintro ⟨value, given, rfl⟩
      obtain ⟨given, rfl⟩ := valueOf_eq_ok.mp given
      exact ⟨given, rfl⟩
    · rintro ⟨given, rfl⟩
      exact ⟨_, given, rfl⟩
  simp only [updateArms, Outcome.bind_eq_ok, Outcome.pure_eq_ok, pairs, List.mapM_map, Function.comp_def,
    Outcome.mapM_eq_ok_map each]
  constructor
  · rintro ⟨_, ⟨all, rfl⟩, rfl⟩
    exact ⟨all, rfl⟩
  · rintro ⟨all, rfl⟩
    exact ⟨_, ⟨all, rfl⟩, rfl⟩

/-- When a batch can be updated, and by what. -/
theorem updateBatch_eq_ok {database : Option String} {records : List Record} {statement : Statement} :
    updateBatch database metadata records = .ok statement ↔
      records ≠ [] ∧ metadata.dataColumns ≠ [] ∧ (∀ record ∈ records, metadata.Updatable record) ∧
        ∃ table, TableRef.make database metadata.table = .ok table ∧ statement = updateOf metadata table records := by
  simp only [updateBatch, Outcome.guarded_eq_ok, Outcome.bind_eq_ok, Outcome.pure_eq_ok, List.isEmpty_iff,
    Outcome.mapM_eq_ok_map fun _ _ => updateKey_eq_ok]
  constructor
  · rintro ⟨present, _, ⟨keyed, rfl⟩, columns, bound, data, table, made, rfl⟩
    rw [Outcome.mapM_eq_ok_map fun _ _ => updateArms_eq_ok] at bound
    obtain ⟨values, rfl⟩ := bound
    refine ⟨present, by simpa using data, fun record member => ⟨keyed record member, ?_⟩, table, made, rfl⟩
    exact fun field column => values field column record member
  · rintro ⟨present, data, updatable, table, made, rfl⟩
    refine ⟨present, _, ⟨fun record member => (updatable record member).key, rfl⟩,
      metadata.dataColumns.map fun field => (field.column, armsOf metadata records field), ?_, by simpa using data,
      table, made, rfl⟩
    rw [Outcome.mapM_eq_ok_map fun _ _ => updateArms_eq_ok]
    exact ⟨fun field column record member => (updatable record member).values field column, rfl⟩

/-- A record can be bound if it has a key other than zero and all its values convert. -/
theorem updatable_iff {record : Record} :
    metadata.Updatable record ↔
      (∃ key, metadata.keyOf record = .ok key ∧ key.isZero = false) ∧
        ∀ field ∈ metadata.dataColumns, ∃ value, metadata.valueOf record field = .ok value := by
  have keyed (key : Value) : updateKey metadata record = .ok key ↔ metadata.keyOf record = .ok key ∧ key.isZero = false := by
    simp only [updateKey, bind_eq_ok, guarded_eq_ok, pure_eq_ok, Bool.not_eq_true]
    constructor
    · rintro ⟨_, given, present, rfl⟩
      exact ⟨given, present⟩
    · rintro ⟨given, present⟩
      exact ⟨key, given, present, rfl⟩
  constructor
  · rintro ⟨key, values⟩
    exact ⟨⟨_, (keyed _).mp key⟩, fun field column => ⟨_, values field column⟩⟩
  · rintro ⟨⟨key, given⟩, values⟩
    refine ⟨(updateKey_eq_ok.mp ((keyed key).mpr given)).1, fun field column => ?_⟩
    obtain ⟨value, converted⟩ := values field column
    exact (valueOf_eq_ok.mp converted).1

theorem make_succeeds {database : Option String} {table : String} :
    (∃ made, TableRef.make database table = .ok made) ↔
      Name.check table = .ok () ∧ ∀ name, database = some name → name ≠ "" → Name.check name = .ok () := by
  simp only [make_eq_ok, exists_and_left, exists_eq, and_true]

/-- Why a batch cannot be updated. -/
theorem updateBatch_fails {database : Option String} {records : List Record} :
    (∃ failure, updateBatch database metadata records = .error failure) ↔
      records = [] ∨
      (∃ record ∈ records, ∀ key, metadata.keyOf record = .ok key → key.isZero = true) ∨
      (∃ record ∈ records, ∃ field ∈ metadata.dataColumns, ∃ failure, metadata.valueOf record field = .error failure) ∨
      metadata.dataColumns = [] ∨
      Name.check metadata.table ≠ .ok () ∨
      ∃ name, database = some name ∧ name ≠ "" ∧ Name.check name ≠ .ok () := by
  have succeeds : (∃ statement, updateBatch database metadata records = .ok statement) ↔
      records ≠ [] ∧ metadata.dataColumns ≠ [] ∧ (∀ record ∈ records, metadata.Updatable record) ∧
        Name.check metadata.table = .ok () ∧ ∀ name, database = some name → name ≠ "" → Name.check name = .ok () := by
    simp only [updateBatch_eq_ok, ← make_succeeds]
    constructor
    · rintro ⟨_, present, data, updatable, table, made, _⟩
      exact ⟨present, data, updatable, table, made⟩
    · rintro ⟨present, data, updatable, table, made⟩
      exact ⟨_, present, data, updatable, table, made, rfl⟩
  rw [fails_iff, succeeds, not_iff_comm]
  simp only [fails_iff, updatable_iff, not_or, not_exists, not_and, not_forall, not_not, Bool.not_eq_true, exists_prop]
  constructor
  · rintro ⟨present, keys, values, data, named, owned⟩
    exact ⟨present, data, fun record member => ⟨keys record member, values record member⟩, named, owned⟩
  · rintro ⟨present, data, updatable, named, owned⟩
    exact ⟨present, fun record member => (updatable record member).1, fun record member => (updatable record member).2,
      data, named, owned⟩

/-- A batch that can be updated at once can be updated in parts. -/
theorem updateBatchChunked_of_updateBatch {database : Option String} {records : List Record} {whole : Statement}
    (made : updateBatch database metadata records = .ok whole) (maxParams : Nat) :
    ∃ (table : TableRef) (batches : List (List Record)), TableRef.make database metadata.table = .ok table ∧
      whole = updateOf metadata table records ∧ batches.flatten = records ∧ (∀ batch ∈ batches, batch ≠ []) ∧
      updateBatchChunked maxParams database metadata records = .ok (batches.map (updateOf metadata table)) := by
  obtain ⟨present, data, updatable, table, named, rfl⟩ := updateBatch_eq_ok.mp made
  have positive : 0 < rowsPerStatement maxParams (2 * metadata.dataColumns.length + 1) := by
    rw [rowsPerStatement]
    omega
  obtain ⟨joined, filled⟩ := flatten_runs positive records
  refine ⟨table, _, named, rfl, joined, filled, ?_⟩
  have stepwise (batch : List Record) (statement : Statement) :
      updateBatch database metadata batch = .ok statement ↔
        (batch ≠ [] ∧ ∀ record ∈ batch, metadata.Updatable record) ∧ statement = updateOf metadata table batch := by
    rw [updateBatch_eq_ok, named]
    constructor
    · rintro ⟨filled, _, each, _, same, rfl⟩
      cases same
      exact ⟨⟨filled, each⟩, rfl⟩
    · rintro ⟨⟨filled, each⟩, rfl⟩
      exact ⟨filled, data, each, table, rfl, rfl⟩
  rw [updateBatchChunked, if_neg (by simpa using present), Outcome.mapM_eq_ok_map stepwise]
  refine ⟨fun batch member => ⟨filled batch member, fun record inside => updatable record ?_⟩, rfl⟩
  rw [← joined]
  exact List.mem_flatten.mpr ⟨batch, member, inside⟩

end Statement

end RecordMapper
