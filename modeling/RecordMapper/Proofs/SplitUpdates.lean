import RecordMapper.Proofs.BatchUpdates
import RecordMapper.Proofs.StoredObjects
import RecordMapper.Proofs.WorkCalls
import RecordMapper.Proofs.WorkEffects
import RecordMapper.Work.Writes

/-! Updates split into several statements. They do what one statement does and touch as many rows, exactly if no row is
changed by two of the statements. -/

namespace RecordMapper

/-- Surroundings that run commands on tables. -/
structure Surroundings.RunsOn (s : Surroundings σ) (tables : σ → Tables) : Prop where
  note (event : Event) (world : σ) : tables (s.note event world) = tables world
  execute {command : Command} {world : σ} {count : Nat} {after : Tables}
    (ran : Database.runCommand (tables world) command = .ok (.touched count, after)) :
    ∃ later, s.execute ⟨command, []⟩ world = (.done (UInt64.ofNat count), later) ∧ tables later = after
  refuse {command : Command} {world : σ} {fault : Fault} (ran : Database.runCommand (tables world) command = .error fault) :
    ∃ text later, s.execute ⟨command, []⟩ world = (.refused text, later)

/-- Whether an update by keys changes a row. -/
def Statement.chooses (statement : Statement) (table : Table) (row : Tuple) : Bool :=
  match statement.command with
  | .updateByKey _ key _ keys =>
    let reading := table.env row (.ofName key)
    (reading.likeness.among reading.datum (keys.map .ofValue)).isTrue
  | _ => false

theorem Statement.chooses_updateOf {metadata : Metadata} (described : metadata.Described) {table : Table}
    (stores : table.Stores metadata) (ref : TableRef) (batch : List Record) (row : Tuple) :
    (updateOf metadata ref batch).chooses table row =
      (metadata.change batch).chosen (row.get metadata.keyColumn) := by
  simp only [chooses, updateOf, stores.env_key described, Metadata.among_keys]

theorem Database.runCommand_updateOf {metadata : Metadata} (described : metadata.Described) {tables : Tables}
    {ref : TableRef} {table : Table} (found : tables.find ref = .ok table) (stores : table.Stores metadata)
    (batch : List Record) :
    runCommand tables (Statement.updateOf metadata ref batch).command =
      (table.updateKeyed metadata.keyColumn (metadata.change batch)).map fun (count, changed) =>
        (.touched count, replace tables changed) := by
  simp only [Statement.updateOf, runCommand, onTable, found, bind, Except.bind, stores.updateByKey_eq described]
  cases table.updateKeyed metadata.keyColumn (metadata.change batch) <;> rfl

namespace Work

/-- Statements in order all succeed, touch so many rows together and leave the tables so. -/
def Brings (s : Surroundings σ) (tables : σ → Tables) (scene : Scene σ) (statements : List Statement) (total : UInt64)
    (after : Tables) : Prop :=
  ∃ later, (executeAll s statements).run scene = (.ok total, later) ∧ tables later.world = after

section

variable {s : Surroundings σ} {tables : σ → Tables} (runs : s.RunsOn tables)
include runs

theorem run_execute {scene : Scene σ} (unclosed : scene.work.isClosed = false) {command : Command} {count : Nat}
    {after : Tables} (ran : Database.runCommand (tables scene.world) command = .ok (.touched count, after)) :
    ∃ later, (execute s ⟨command, []⟩).run scene = (.ok (UInt64.ofNat count), { scene with world := later }) ∧
      tables later = after := by
  rw [← runs.note (.sending scene.work.dialect ⟨command, []⟩)] at ran
  obtain ⟨later, executed, left⟩ := runs.execute ran
  refine ⟨later, ?_, left⟩
  rw [execute, run_send s unclosed, executed]
  rfl

theorem run_execute_refused {scene : Scene σ} (unclosed : scene.work.isClosed = false) {command : Command}
    {fault : Fault} (ran : Database.runCommand (tables scene.world) command = .error fault) :
    ∃ text later, (execute s ⟨command, []⟩).run scene = (.error (.sql text), later) := by
  rw [← runs.note (.sending scene.work.dialect ⟨command, []⟩)] at ran
  obtain ⟨text, later, executed⟩ := runs.refuse ran
  refine ⟨text, { scene with world := later }, ?_⟩
  rw [execute, run_send s unclosed, executed]
  rfl

/-- Statements bring what the others bring after the first. -/
theorem brings_cons {scene : Scene σ} (unclosed : scene.work.isClosed = false) {command : Command} {count : Nat}
    {middle : Tables} (ran : Database.runCommand (tables scene.world) command = .ok (.touched count, middle))
    (statements : List Statement) :
    ∃ later : Scene σ, later.work.isClosed = false ∧ tables later.world = middle ∧ ∀ total after,
      Brings s tables scene (⟨command, []⟩ :: statements) total after ↔
        ∃ more, Brings s tables later statements more after ∧ total = UInt64.ofNat count + more := by
  obtain ⟨world, executed, left⟩ := run_execute runs unclosed ran
  refine ⟨{ scene with world }, unclosed, left, fun total after => ?_⟩
  rw [Brings, executeAll, run_bind, executed]
  simp only [run_bind, Brings]
  generalize (executeAll s statements).run { scene with world } = reached
  obtain ⟨outcome, last⟩ := reached
  cases outcome with
  | error failure =>
    refine iff_of_false (fun ⟨_, same, _⟩ => ?_) fun ⟨_, ⟨_, same, _⟩, _⟩ => ?_ <;> cases same
  | ok more =>
    constructor
    · rintro ⟨_, same, rfl⟩
      cases same
      exact ⟨more, ⟨last, rfl, rfl⟩, rfl⟩
    · rintro ⟨_, ⟨_, same, rfl⟩, rfl⟩
      cases same
      exact ⟨last, rfl, rfl⟩

theorem not_brings {scene : Scene σ} (unclosed : scene.work.isClosed = false) {command : Command} {fault : Fault}
    (ran : Database.runCommand (tables scene.world) command = .error fault) (statements : List Statement) (total : UInt64)
    (after : Tables) : ¬ Brings s tables scene (⟨command, []⟩ :: statements) total after := by
  obtain ⟨text, later, executed⟩ := run_execute_refused runs unclosed ran
  rintro ⟨last, same, _⟩
  rw [executeAll, run_bind, executed] at same
  cases same

/-- Statements that update batches bring what the updates of the batches bring to the table. -/
theorem brings_batches {metadata : Metadata} (described : metadata.Described) {ref : TableRef} {total : UInt64}
    {after : Tables} {batches : List (List Record)} {scene : Scene σ} (unclosed : scene.work.isClosed = false)
    {table : Table} (found : (tables scene.world).find ref = .ok table) (stores : table.Stores metadata)
    (settled : batches = [] → Database.replace (tables scene.world) table = tables scene.world) :
    Brings s tables scene (batches.map (Statement.updateOf metadata ref)) total after ↔
      ∃ count changed, Table.updateBatches metadata table batches = .ok (count, changed) ∧
        total = UInt64.ofNat count ∧ after = Database.replace (tables scene.world) changed := by
  -- After each batch the table is found in its new state; batches that follow replace that one again.
  induction batches generalizing scene table total with
  | nil =>
    constructor
    · rintro ⟨_, same, rfl⟩
      cases same
      exact ⟨0, table, rfl, rfl, (settled rfl).symm⟩
    · rintro ⟨_, _, same, rfl, rfl⟩
      cases same
      exact ⟨scene, rfl, (settled rfl).symm⟩
  | cons batch rest ih =>
    have ran := Database.runCommand_updateOf described found stores batch
    have command : Statement.updateOf metadata ref batch = ⟨(Statement.updateOf metadata ref batch).command, []⟩ := rfl
    rw [List.map_cons, command]
    cases made : table.updateKeyed metadata.keyColumn (metadata.change batch) with
    | error fault =>
      rw [made] at ran
      refine iff_of_false (not_brings runs unclosed ran _ _ _) ?_
      rintro ⟨count, changed, updated, _⟩
      obtain ⟨_, _, _, first, _⟩ := Table.updateBatches_cons.mp updated
      rw [made] at first
      cases first
    | ok result =>
      obtain ⟨part, middle⟩ := result
      rw [made] at ran
      obtain ⟨still, name, _, _⟩ := stores.updated described made
      obtain ⟨later, open_, left, brings⟩ := brings_cons runs unclosed ran (rest.map (Statement.updateOf metadata ref))
      have known : (tables later.world).find ref = .ok middle := by
        rw [left]
        exact Tables.find_replace found name
      have replaced {changed : Table} (same : changed.name = middle.name) :
          Database.replace (tables later.world) changed = Database.replace (tables scene.world) changed := by
        rw [left]
        exact Tables.replace_replace _ same
      rw [brings]
      simp only [ih open_ known still fun _ => by rw [replaced rfl, left]]
      constructor
      · rintro ⟨_, ⟨count, changed, next, rfl, rfl⟩, rfl⟩
        refine ⟨part + count, changed, Table.updateBatches_cons.mpr ⟨_, _, _, made, next, rfl⟩, ?_, ?_⟩
        · rw [UInt64.ofNat_add]
        · rw [replaced (still.updateBatches_count described next).2]
      · rintro ⟨_, changed, updated, rfl, rfl⟩
        obtain ⟨_, _, count, first, next, rfl⟩ := Table.updateBatches_cons.mp updated
        rw [made] at first
        cases first
        refine ⟨_, ⟨count, changed, next, rfl, ?_⟩, ?_⟩
        · rw [replaced (still.updateBatches_count described next).2]
        · rw [UInt64.ofNat_add]

/-- One statement that updates a batch brings what the update brings to the table. -/
theorem brings_batch {metadata : Metadata} (described : metadata.Described) {ref : TableRef} {total : UInt64}
    {after : Tables} (batch : List Record) {scene : Scene σ} (unclosed : scene.work.isClosed = false)
    {table : Table} (found : (tables scene.world).find ref = .ok table) (stores : table.Stores metadata) :
    Brings s tables scene [Statement.updateOf metadata ref batch] total after ↔
      ∃ count changed, table.updateKeyed metadata.keyColumn (metadata.change batch) = .ok (count, changed) ∧
        total = UInt64.ofNat count ∧ after = Database.replace (tables scene.world) changed := by
  have brings : Brings s tables scene ([batch].map (Statement.updateOf metadata ref)) total after ↔ _ :=
    brings_batches runs described unclosed found stores nofun
  simpa only [List.map_cons, List.map_nil, Table.updateBatches_one] using brings

end

/-- Updates split into several statements leave the same tables as one statement and touch as many rows, if no row is
changed by two of the statements, and only then. Records with different keys never change one row twice. -/
theorem split_update_exact {model : Model α} {metadata : Metadata} (described : model.metadata = .ok metadata)
    (distinct : metadata.blank.names.Nodup) {database : Option String} {records : List Record} {whole : Statement}
    (made : Statement.updateBatch database metadata records = .ok whole) (maxParams : Nat) {s : Surroundings σ}
    {tables : σ → Tables} (runs : s.RunsOn tables) {scene : Scene σ} (unclosed : scene.work.isClosed = false)
    {ref : TableRef} (named : TableRef.make database metadata.table = .ok ref) {table : Table}
    (found : (tables scene.world).find ref = .ok table) (stores : table.Stores metadata) :
    ∃ parts, Statement.updateBatchChunked maxParams database metadata records = .ok parts ∧
      let once := parts.Pairwise fun part later =>
        ∀ row ∈ table.rows, (part.chooses table row && later.chooses table row) = false
      (once → ∀ total after, Brings s tables scene [whole] total after ↔ Brings s tables scene parts total after) ∧
      (records.length * table.rows.length < UInt64.size → ∀ total after other,
        Brings s tables scene [whole] total after → Brings s tables scene parts total other → once) ∧
      ((∀ row ∈ table.rows, ∃ value : Value,
          value.kind? = some metadata.keyKind ∧ row.get metadata.keyColumn = .ofValue value) →
        (∀ keys, records.mapM (Statement.updateKey metadata) = .ok keys → keys.Nodup) → once) := by
  have known := Metadata.Described.of_model described distinct
  obtain ⟨present, _, updatable, _⟩ := Statement.updateBatch_eq_ok.mp made
  obtain ⟨_, batches, again, rfl, rfl, filled, chunked⟩ := Statement.updateBatchChunked_of_updateBatch made maxParams
  cases named.symm.trans again
  have some_ : batches ≠ [] := fun none_ => present (by simp [none_])
  have once : (batches.map (Statement.updateOf metadata ref)).Pairwise (fun part later =>
      ∀ row ∈ table.rows, (part.chooses table row && later.chooses table row) = false) ↔
        Table.NoneTwice metadata (table.dataIn metadata.keyColumn) batches := by
    simp only [List.pairwise_map, Table.NoneTwice, Table.dataIn, List.forall_mem_map,
      Statement.chooses_updateOf known stores]
  refine ⟨_, chunked, ?_⟩
  simp only [once]
  refine ⟨fun apart total after => ?_, fun bound total after other atOnce inParts => ?_, fun stored different => ?_⟩
  · rw [brings_batch runs known batches.flatten unclosed found stores,
      brings_batches runs known unclosed found stores fun none_ => absurd none_ some_]
    simp only [stores.updateBatches_iff known apart]
  · obtain ⟨count, changed, updated, rfl, _⟩ := (brings_batch runs known _ unclosed found stores).mp atOnce
    obtain ⟨counts, _, split, total, _⟩ :=
      (brings_batches runs known unclosed found stores fun none_ => absurd none_ some_).mp inParts
    obtain ⟨_, _, rfl, _⟩ := stores.updated known updated
    obtain ⟨rfl, _⟩ := stores.updateBatches_count known split
    obtain ⟨fewer, exact_⟩ := Table.countP_flatten_le metadata (table.dataIn metadata.keyColumn) batches
    have most := Table.batchCounts_le metadata (table.dataIn metadata.keyColumn) filled
    have size : (table.dataIn metadata.keyColumn).length = table.rows.length := List.length_map _
    rw [size] at most
    -- Both totals are below the greatest number, so that equal totals are equal counts.
    have same := congrArg UInt64.toNat total
    rw [UInt64.toNat_ofNat_of_lt' (by omega), UInt64.toNat_ofNat_of_lt' (by omega)] at same
    exact exact_ same
  · refine Table.noneTwice_of_nodup known (List.forall_mem_map.mpr stored) (fun record member => (updatable record member).key) ?_
    refine different _ ((Outcome.mapM_eq_ok_map fun _ _ => Statement.updateKey_eq_ok).mpr ⟨?_, rfl⟩)
    exact fun record member => (updatable record member).key

end Work

/-- Surroundings that are tables alone. -/
def Surroundings.onTables : Surroundings Tables where
  registry := {}
  execute statement tables :=
    match Database.runCommand tables statement.command with
    | .ok (.touched count, after) => (.done (UInt64.ofNat count), after)
    | .ok (_, after) => (.done 0, after)
    | .error fault => (.refused fault.text, tables)
  fetch _ tables := (.done [], tables)
  commit tables := (.done (), tables)
  rollback tables := (.done (), tables)
  release := id
  abandon := id
  reading tables := (0, tables)
  note _ := id
  store := none

theorem Surroundings.runsOn_onTables : onTables.RunsOn id where
  note _ _ := rfl
  execute {command world count after} ran := by
    have ran : Database.runCommand world command = .ok (.touched count, after) := ran
    exact ⟨after, by simp only [onTables, ran], rfl⟩
  refuse {command world fault} ran := by
    have ran : Database.runCommand world command = .error fault := ran
    exact ⟨fault.text, world, by simp only [onTables, ran]⟩

/-- A table of one counter. -/
def counterTable (id count : Int64) : Table where
  name := "counter"
  columns := counterMetadata.columns.map (Statement.columnDef counterMetadata)
  rows := [[("id", .int id), ("count", .int count)]]

def counts (rows : List (Int × Int)) : List Record := rows.map fun (id, count) => [("id", .int id), ("count", .int count)]

namespace Work

def counting : Scene Tables := ⟨opened .sqlite {} (.ofMilliseconds 1) .connection, ⟨0, []⟩, [counterTable 1 0]⟩

/-- Two counts are updated by a statement each, as three parameters are the most that a statement takes. One of the counters
is there. -/
theorem two_counts_split :
    ∃ parts, Statement.updateBatchChunked 3 none counterMetadata (counts [(1, 5), (2, 6)]) = .ok parts ∧
      parts.length = 2 ∧ Brings .onTables id counting parts 1 [counterTable 1 5] := by
  have described : counter.metadata = .ok counterMetadata := rfl
  have kept : (counterTable 1 0).withRows (counterTable 1 0).rows = .ok (counterTable 1 0) := by with_unfolding_all rfl
  have stores : (counterTable 1 0).Stores counterMetadata := ⟨rfl, by decide, kept⟩
  have made : Statement.updateBatch none counterMetadata (counts [(1, 5), (2, 6)]) =
      .ok (Statement.updateOf counterMetadata ⟨none, "counter"⟩ (counts [(1, 5), (2, 6)])) := rfl
  have unclosed : counting.work.isClosed = false := rfl
  have named : TableRef.make none counterMetadata.table = .ok ⟨none, "counter"⟩ := rfl
  have found : (id counting.world).find ⟨none, "counter"⟩ = .ok (counterTable 1 0) := rfl
  obtain ⟨parts, chunked, same, _, apart⟩ :=
    split_update_exact described (by decide) made 3 Surroundings.runsOn_onTables unclosed named found stores
  have stored : ∀ row ∈ (counterTable 1 0).rows, ∃ value : Value,
      value.kind? = some counterMetadata.keyKind ∧ row.get counterMetadata.keyColumn = .ofValue value := by
    intro row member
    obtain rfl := List.mem_singleton.mp member
    exact ⟨.int 1, rfl, rfl⟩
  have different (keys : List Value)
      (given : (counts [(1, 5), (2, 6)]).mapM (Statement.updateKey counterMetadata) = .ok keys) : keys.Nodup := by
    have known : (counts [(1, 5), (2, 6)]).mapM (Statement.updateKey counterMetadata) = .ok [.int 1, .int 2] := rfl
    cases known.symm.trans given
    decide
  have whole : Brings .onTables id counting
      [Statement.updateOf counterMetadata ⟨none, "counter"⟩ (counts [(1, 5), (2, 6)])] 1 [counterTable 1 5] :=
    ⟨{ counting with world := [counterTable 1 5] }, by with_unfolding_all rfl, rfl⟩
  have known : Statement.updateBatchChunked 3 none counterMetadata (counts [(1, 5), (2, 6)]) =
      .ok [Statement.updateOf counterMetadata ⟨none, "counter"⟩ (counts [(1, 5)]),
        Statement.updateOf counterMetadata ⟨none, "counter"⟩ (counts [(2, 6)])] := rfl
  refine ⟨parts, chunked, ?_, (same (apart stored different) _ _).mp whole⟩
  cases known.symm.trans chunked
  rfl

/-- A count that is given twice: one statement takes the first number and touches one row, while two statements leave the
last number and touch one row each. -/
theorem repeated_count_split_differs :
    ∃ whole parts, Statement.updateBatch none counterMetadata (counts [(1, 5), (1, 6)]) = .ok whole ∧
      Statement.updateBatchChunked 3 none counterMetadata (counts [(1, 5), (1, 6)]) = .ok parts ∧
      Brings .onTables id counting [whole] 1 [counterTable 1 5] ∧
      ∀ total after, Brings .onTables id counting parts total after ↔ total = 2 ∧ after = [counterTable 1 6] := by
  have whole : (executeAll .onTables
      [Statement.updateOf counterMetadata ⟨none, "counter"⟩ (counts [(1, 5), (1, 6)])]).run counting =
        (.ok 1, { counting with world := [counterTable 1 5] }) := by with_unfolding_all rfl
  have parts : (executeAll .onTables
      [Statement.updateOf counterMetadata ⟨none, "counter"⟩ (counts [(1, 5)]),
        Statement.updateOf counterMetadata ⟨none, "counter"⟩ (counts [(1, 6)])]).run counting =
          (.ok 2, { counting with world := [counterTable 1 6] }) := by with_unfolding_all rfl
  refine ⟨_, _, rfl, rfl, ⟨_, whole, rfl⟩, fun total after => ⟨?_, ?_⟩⟩
  · rintro ⟨later, same, rfl⟩
    cases parts.symm.trans same
    exact ⟨rfl, rfl⟩
  · rintro ⟨rfl, rfl⟩
    exact ⟨_, parts, rfl⟩

end Work

end RecordMapper
