import Mathlib.Algebra.GroupWithZero.Nat
import RecordMapper.Proofs.ModelTables

/-! Batches of records that update a table one after the other. Each batch counts the rows it changes, so the batches change
the table as one batch of all records does and count the same rows, exactly if no row's key is in two of them. -/

namespace RecordMapper

namespace Table

variable {metadata : Metadata}

/-- Updates of batches one after the other; the numbers of rows add up. -/
def updateBatches (metadata : Metadata) (table : Table) : List (List Record) → Except Fault (Nat × Table)
  | [] => .ok (0, table)
  | batch :: rest => do
    let (count, changed) ← table.updateKeyed metadata.keyColumn (metadata.change batch)
    let (more, changed) ← updateBatches metadata changed rest
    return (count + more, changed)

/-- No row's key is that of records in two of several batches. -/
def NoneTwice (metadata : Metadata) (keys : List Datum) (batches : List (List Record)) : Prop :=
  batches.Pairwise fun batch later =>
    ∀ key ∈ keys, ((metadata.change batch).chosen key && (metadata.change later).chosen key) = false

/-- The number of rows that batches change, where a row counts once for each batch. -/
def batchCounts (metadata : Metadata) (keys : List Datum) (batches : List (List Record)) : Nat :=
  (batches.map fun batch => keys.countP (metadata.change batch).chosen).sum

theorem updateBatches_cons {table changed : Table} {batch : List Record} {batches : List (List Record)} {count : Nat} :
    updateBatches metadata table (batch :: batches) = .ok (count, changed) ↔
      ∃ part middle more, table.updateKeyed metadata.keyColumn (metadata.change batch) = .ok (part, middle) ∧
        updateBatches metadata middle batches = .ok (more, changed) ∧ count = part + more := by
  simp only [updateBatches, Outcome.bind_eq_ok, Outcome.pure_eq_ok, Prod.exists, Prod.mk.injEq]
  constructor
  · rintro ⟨part, middle, first, more, _, next, rfl, rfl⟩
    exact ⟨part, middle, more, first, next, rfl⟩
  · rintro ⟨part, middle, more, first, next, rfl⟩
    exact ⟨part, middle, first, more, changed, next, rfl, rfl⟩

theorem updateBatches_one {table changed : Table} {batch : List Record} {count : Nat} :
    updateBatches metadata table [batch] = .ok (count, changed) ↔
      table.updateKeyed metadata.keyColumn (metadata.change batch) = .ok (count, changed) := by
  rw [updateBatches_cons]
  constructor
  · rintro ⟨part, middle, more, made, none_, rfl⟩
    cases none_
    exact made
  · intro made
    exact ⟨count, changed, 0, made, rfl, rfl⟩

theorem chosen_append (batch later : List Record) (key : Datum) :
    (metadata.change (batch ++ later)).chosen key = ((metadata.change batch).chosen key || (metadata.change later).chosen key) := by
  rw [Metadata.change_append]
  rfl

theorem chosen_flatten (batches : List (List Record)) (key : Datum) :
    (metadata.change batches.flatten).chosen key = batches.any fun batch => (metadata.change batch).chosen key := by
  induction batches with
  | nil => rfl
  | cons batch rest ih => rw [List.flatten_cons, chosen_append, ih, List.any_cons]

/-- Batches count every row that any of them changes, and exactly those if no row's key is in two of them. -/
theorem countP_flatten_le (metadata : Metadata) (keys : List Datum) (batches : List (List Record)) :
    keys.countP (metadata.change batches.flatten).chosen ≤ batchCounts metadata keys batches ∧
      (keys.countP (metadata.change batches.flatten).chosen = batchCounts metadata keys batches →
        NoneTwice metadata keys batches) := by
  induction batches with
  | nil =>
    have none_ : keys.countP (metadata.change []).chosen = 0 := List.countP_eq_zero.mpr fun _ _ => Bool.false_ne_true
    exact ⟨Nat.le_of_eq none_, fun _ => .nil⟩
  | cons batch rest ih =>
    obtain ⟨fewer, exact_⟩ := ih
    have counts := countP_either (metadata.change batch) (metadata.change rest.flatten) keys
    rw [← Metadata.change_append, ← List.flatten_cons] at counts
    have sum : batchCounts metadata keys (batch :: rest) =
        keys.countP (metadata.change batch).chosen + batchCounts metadata keys rest := by simp [batchCounts]
    refine ⟨by omega, fun same => ?_⟩
    have none_ : keys.countP (fun key => (metadata.change batch).chosen key && (metadata.change rest.flatten).chosen key) = 0 := by
      omega
    refine List.pairwise_cons.mpr ⟨fun later member key listed => ?_, exact_ (by omega)⟩
    have apart := List.countP_eq_zero.mp none_ key listed
    cases here : (metadata.change batch).chosen key with
    | false => rfl
    | true =>
      cases there : (metadata.change later).chosen key with
      | false => rfl
      | true =>
        refine absurd ?_ apart
        rw [here, chosen_flatten]
        simpa using ⟨later, member, there⟩

/-- Batches that are not empty count no row more often than there are records. -/
theorem batchCounts_le (metadata : Metadata) (keys : List Datum) {batches : List (List Record)} (filled : ∀ batch ∈ batches, batch ≠ []) :
    batchCounts metadata keys batches ≤ batches.flatten.length * keys.length := by
  induction batches with
  | nil => exact Nat.zero_le _
  | cons batch rest ih =>
    obtain ⟨some_, filled⟩ := List.forall_mem_cons.mp filled
    have later := ih filled
    have here : keys.countP (metadata.change batch).chosen ≤ keys.length := List.countP_le_length
    have size : 1 ≤ batch.length := List.length_pos_iff.mpr some_
    have once := Nat.mul_le_mul_right keys.length size
    rw [List.flatten_cons, List.length_append, Nat.add_mul]
    simp only [batchCounts, List.map_cons, List.sum_cons] at later ⊢
    omega

/-- Records with different keys have the keys of different rows. -/
theorem noneTwice_of_nodup (described : metadata.Described) {keys : List Datum}
    (stored : ∀ key ∈ keys, ∃ value : Value, value.kind? = some metadata.keyKind ∧ key = .ofValue value)
    {batches : List (List Record)}
    (given : ∀ record ∈ batches.flatten, Statement.updateKey metadata record = .ok (metadata.keyIn record))
    (different : (batches.flatten.map metadata.keyIn).Nodup) : NoneTwice metadata keys batches := by
  rw [List.map_flatten, List.nodup_flatten, List.pairwise_map] at different
  refine different.2.imp_of_mem fun {batch later} member inside apart key listed => ?_
  obtain ⟨value, kind, rfl⟩ := stored key listed
  rw [Bool.and_eq_false_iff, or_iff_not_imp_left, Bool.not_eq_false]
  intro here
  obtain ⟨record, first, has⟩ := List.any_eq_true.mp here
  refine List.any_eq_false.mpr fun other second also => ?_
  have same := Metadata.eq_of_hasKey described (given record (List.mem_flatten.mpr ⟨batch, member, first⟩)) kind has
  have alike := Metadata.eq_of_hasKey described (given other (List.mem_flatten.mpr ⟨later, inside, second⟩)) kind also
  refine apart (List.mem_map_of_mem first) ?_
  rw [same, ← alike]
  exact List.mem_map_of_mem second

section

variable {table : Table} (stores : table.Stores metadata) (described : metadata.Described)
include stores described

/-- What an update of a batch leaves as it was. -/
theorem Stores.updated {changed : Table} {batch : List Record} {count : Nat}
    (made : table.updateKeyed metadata.keyColumn (metadata.change batch) = .ok (count, changed)) :
    changed.Stores metadata ∧ changed.name = table.name ∧
      count = (table.dataIn metadata.keyColumn).countP (metadata.change batch).chosen ∧
      changed.dataIn metadata.keyColumn = table.dataIn metadata.keyColumn := by
  have spares := stores.spares described batch
  have kept := stores.kept.updateKeyed spares made
  obtain ⟨_, rfl, rfl⟩ := (updateKeyed_eq_ok stores.kept spares).mp made
  exact ⟨⟨stores.columns, stores.unalike, kept⟩, rfl, rfl, dataIn_changed (stores.key_unique described) spares⟩

/-- Batches one after the other count a row once for each batch, and leave the table its name. -/
theorem Stores.updateBatches_count {changed : Table} {batches : List (List Record)} {count : Nat}
    (made : updateBatches metadata table batches = .ok (count, changed)) :
    count = batchCounts metadata (table.dataIn metadata.keyColumn) batches ∧ changed.name = table.name := by
  induction batches generalizing table count with
  | nil =>
    cases made
    exact ⟨rfl, rfl⟩
  | cons batch rest ih =>
    obtain ⟨part, middle, more, first, next, rfl⟩ := updateBatches_cons.mp made
    obtain ⟨still, name, rfl, same⟩ := stores.updated described first
    obtain ⟨rfl, named⟩ := ih still next
    rw [same]
    exact ⟨by simp [batchCounts], named.trans name⟩

/-- Batches can be updated at once or one after the other if no row's key is in two of them. -/
theorem Stores.updateBatches_iff {changed : Table} {batches : List (List Record)} {count : Nat}
    (once : NoneTwice metadata (table.dataIn metadata.keyColumn) batches) :
    table.updateKeyed metadata.keyColumn (metadata.change batches.flatten) = .ok (count, changed) ↔
      updateBatches metadata table batches = .ok (count, changed) := by
  induction batches generalizing table count with
  | nil =>
    have spares := stores.spares described []
    have unchanged : table.rows.map (table.changedRow metadata.keyColumn (metadata.change [])) = table.rows :=
      List.map_id'' (fun _ => rfl) _
    have none_ (keys : List Datum) : keys.countP (metadata.change []).chosen = 0 :=
      List.countP_eq_zero.mpr fun _ _ => Bool.false_ne_true
    rw [List.flatten_nil, updateKeyed_eq_ok stores.kept spares, updateBatches, none_, unchanged]
    constructor
    · rintro ⟨_, rfl, rfl⟩
      rfl
    · intro same
      cases same
      exact ⟨fun row => stores.kept.lacking row, rfl, rfl⟩
  | cons batch rest ih =>
    obtain ⟨apart, once⟩ := List.pairwise_cons.mp once
    have first : ∀ key ∈ table.dataIn metadata.keyColumn,
        ((metadata.change batch).chosen key && (metadata.change rest.flatten).chosen key) = false := by
      intro key listed
      rw [chosen_flatten, Bool.and_eq_false_iff, List.any_eq_false]
      cases here : (metadata.change batch).chosen key with
      | false => exact .inl rfl
      | true =>
        refine .inr fun later member there => ?_
        simpa [here, there] using apart later member key listed
    rw [List.flatten_cons, Metadata.change_append,
      updateKeyed_either stores.kept (stores.key_unique described) (stores.spares described _)
        (stores.spares described _) first, updateBatches_cons]
    constructor
    · rintro ⟨part, middle, more, made, next, rfl⟩
      obtain ⟨still, _, _, same⟩ := stores.updated described made
      exact ⟨part, middle, more, made, (ih still (same ▸ once)).mp next, rfl⟩
    · rintro ⟨part, middle, more, made, next, rfl⟩
      obtain ⟨still, _, _, same⟩ := stores.updated described made
      exact ⟨part, middle, more, made, (ih still (same ▸ once)).mpr next, rfl⟩

end

end Table

end RecordMapper
