import RecordMapper.Proofs.Preparations
import RecordMapper.Work.Writes

/-! Only a request to a closed unit of work fails because it is closed. Nothing that is worked out before a
statement is sent, or from its answer, fails that way. -/

namespace RecordMapper

/-- An outcome that does not blame a closed unit of work. -/
abbrev Unclosed (outcome : Outcome α) : Prop := outcome ≠ .error .closed

theorem unclosed_iff {outcome : Outcome α} : Unclosed outcome ↔ FailsOnly (· ≠ .closed) outcome := by
  constructor
  · rintro unclosed failure failed rfl
    exact unclosed failed
  · exact fun fails same => fails .closed same rfl

theorem Prepares.unclosed {outcome : Outcome α} (prepared : Prepares outcome) : Unclosed outcome :=
  unclosed_iff.mpr (prepared.mono fun _ => And.left)

namespace Unclosed

theorem pure (value : α) : Unclosed (Pure.pure value) := nofun

theorem bind {first : Outcome α} {next : α → Outcome β} (before : Unclosed first)
    (after : ∀ value, Unclosed (next value)) : Unclosed (first >>= next) :=
  unclosed_iff.mpr (.bind (unclosed_iff.mp before) fun value => unclosed_iff.mp (after value))

theorem mapM {step : α → Outcome β} (each : ∀ item, Unclosed (step item)) (items : List α) :
    Unclosed (items.mapM step) :=
  unclosed_iff.mpr (.mapM (fun item => unclosed_iff.mp (each item)) items)

theorem map {outcome : Outcome α} (before : Unclosed outcome) (result : α → β) : Unclosed (outcome.map result) :=
  unclosed_iff.mpr ((unclosed_iff.mp before).map result)

theorem guard {refused : Prop} [Decidable refused] {cause : Failure} {after : α → Outcome β} {next : Outcome β}
    (other : cause ≠ .closed) (passed : Unclosed next) : Unclosed (if refused then throw cause >>= after else next) :=
  unclosed_iff.mpr (.guard other (unclosed_iff.mp passed))

end Unclosed

theorem unclosed_integral (x : Double) : Unclosed (Cell.integral x) := by
  unfold Cell.integral
  split
  · split <;> nofun
  · nofun

theorem unclosed_read (index : Nat) (kind : Kind) (cell : Cell) : Unclosed (cell.read index kind) := by
  unfold Cell.read
  split
  case h_3 => exact unclosed_integral _
  all_goals nofun

namespace Metadata

theorem unclosed_checkModel (metadata : Metadata) (model : Model α) : Unclosed (metadata.checkModel model) :=
  (metadata.prepared_checkModel model).unclosed

theorem unclosed_encode (metadata : Metadata) (model : Model α) (object : α) :
    Unclosed (metadata.encode model object) :=
  (metadata.prepared_encode model object).unclosed

theorem unclosed_decode (metadata : Metadata) (model : Model α) (record : Record) :
    Unclosed (metadata.decode model record) := by
  refine .bind (metadata.unclosed_checkModel model) fun _ => ?_
  split <;> nofun

theorem unclosed_valueOf (metadata : Metadata) (record : Record) (field : Field) :
    Unclosed (metadata.valueOf record field) := by
  unfold valueOf
  dsimp only
  split <;> nofun

theorem unclosed_keyOf (metadata : Metadata) (record : Record) : Unclosed (metadata.keyOf record) :=
  (metadata.prepared_keyOf record).unclosed

theorem unclosed_putCell (metadata : Metadata) (record : Record) (index : Nat) (column : String) (cell : Cell) :
    Unclosed (metadata.putCell record index column cell) := by
  unfold putCell
  split
  · nofun
  · exact .bind (unclosed_read index _ cell) fun _ => .pure _

theorem unclosed_putCells (metadata : Metadata) (row : Row) (record : Record) (index : Nat) :
    Unclosed (metadata.putCells record index row) := by
  induction row generalizing record index with
  | nil => nofun
  | cons first rest ih =>
    obtain ⟨column, cell⟩ := first
    exact .bind (metadata.unclosed_putCell record index column cell) fun record => ih record (index + 1)

theorem unclosed_decodeRow (metadata : Metadata) (model : Model α) (row : Row) :
    Unclosed (metadata.decodeRow model row) :=
  .bind (metadata.unclosed_putCells row metadata.blank 0) fun record => metadata.unclosed_decode model record

end Metadata

theorem unclosed_next (reading : Int) (node : Option Nat) (source : KeySource) :
    Unclosed (source.next reading node) := by
  unfold KeySource.next checkNode
  dsimp only
  split
  · rename_i failure refused
    split at refused <;> cases refused
    nofun
  · nofun

theorem unclosed_lookup (registry : Registry) (typeName : String) : Unclosed (registry.lookup typeName) :=
  (prepared_lookup registry typeName).unclosed

namespace Condition

theorem unclosed_formulas (condition : Condition) : Unclosed condition.formulas :=
  condition.prepared_formulas.unclosed

end Condition

theorem TableRef.unclosed_make (database : Option String) (table : String) : Unclosed (TableRef.make database table) :=
  (prepared_make database table).unclosed

namespace Statement

theorem unclosed_insert (database : Option String) (metadata : Metadata) (records : List Record) :
    Unclosed (insert database metadata records) := by
  refine .guard (by nofun) (.bind (.mapM (fun record => ?_) records) fun _ => ?_)
  · exact .mapM (metadata.unclosed_valueOf record) metadata.columns
  · exact .bind (TableRef.unclosed_make database metadata.table) fun _ => .pure _

theorem unclosed_updateKey (metadata : Metadata) (record : Record) : Unclosed (updateKey metadata record) :=
  .bind (metadata.unclosed_keyOf record) fun _ => .guard (by nofun) (.pure _)

theorem unclosed_updateArms (metadata : Metadata) (records : List (Record × Value)) (field : Field) :
    Unclosed (updateArms metadata records field) := by
  refine .bind (.mapM (fun (record, _) => ?_) records) fun _ => .pure _
  exact .bind (metadata.unclosed_valueOf record field) fun _ => .pure _

theorem unclosed_updateBatch (database : Option String) (metadata : Metadata) (records : List Record) :
    Unclosed (updateBatch database metadata records) := by
  refine .guard (by nofun) (.bind (.mapM (unclosed_updateKey metadata) records) fun keys => ?_)
  refine .bind (.mapM (unclosed_updateArms metadata (records.zip keys)) metadata.dataColumns) fun _ => ?_
  exact .guard (by nofun) (.bind (TableRef.unclosed_make database metadata.table) fun _ => .pure _)

theorem unclosed_insertChunked (maxParams : Nat) (database : Option String) (metadata : Metadata)
    (records : List Record) : Unclosed (insertChunked maxParams database metadata records) := by
  unfold insertChunked
  split
  · exact .map (unclosed_insert database metadata records) _
  · exact .mapM (unclosed_insert database metadata) _

theorem unclosed_updateBatchChunked (maxParams : Nat) (database : Option String) (metadata : Metadata)
    (records : List Record) : Unclosed (updateBatchChunked maxParams database metadata records) := by
  unfold updateBatchChunked
  split
  · exact .map (unclosed_updateBatch database metadata records) _
  · exact .mapM (unclosed_updateBatch database metadata) _

theorem unclosed_settable (metadata : Metadata) (key : String) : Unclosed (settable metadata key) := by
  unfold settable
  split
  · nofun
  · split <;> nofun

theorem unclosed_updateByCondition (database : Option String) (metadata : Metadata) (condition : Condition) :
    Unclosed (updateByCondition database metadata condition) := by
  have rest (upset : Upset) : Unclosed (do
      let columns ← upset.keys.mapM (settable metadata)
      let filter ← condition.formulas
      let table ← TableRef.make database metadata.table
      return (⟨.updateWhere table (columns.zip upset.values) filter, []⟩ : Statement)) := by
    refine .bind (.mapM (unclosed_settable metadata) upset.keys) fun _ => ?_
    exact .bind condition.unclosed_formulas fun _ =>
      .bind (TableRef.unclosed_make database metadata.table) fun _ => .pure _
  unfold updateByCondition
  dsimp only
  split
  · nofun
  · refine .guard (by nofun) ?_
    rw [pure_bind]
    exact .guard (by nofun) (.guard (by nofun) (rest _))

theorem unclosed_deleteByIds (database : Option String) (metadata : Metadata) (ids : List Value) :
    Unclosed (deleteByIds database metadata ids) :=
  .guard (by nofun) (.guard (by nofun) (.bind (TableRef.unclosed_make database metadata.table) fun _ => .pure _))

theorem unclosed_deleteByCondition (database : Option String) (metadata : Metadata) (condition : Condition) :
    Unclosed (deleteByCondition database metadata condition) :=
  .guard (by nofun) (.bind condition.unclosed_formulas fun _ =>
    .bind (TableRef.unclosed_make database metadata.table) fun _ => .pure _)

theorem unclosed_createTable (database : Option String) (metadata : Metadata) :
    Unclosed (createTable database metadata) :=
  .bind (TableRef.unclosed_make database metadata.table) fun _ => .pure _

theorem unclosed_dropTable (database : Option String) (metadata : Metadata) : Unclosed (dropTable database metadata) :=
  .bind (TableRef.unclosed_make database metadata.table) fun _ => .pure _

theorem unclosed_count (database : Option String) (metadata : Option Metadata) (condition : Condition) :
    Unclosed (count database metadata condition) :=
  (prepared_count database metadata condition).unclosed

theorem unclosed_exists (database : Option String) (metadata : Metadata) (condition : Condition) :
    Unclosed (exists? database metadata condition) :=
  (prepared_exists database metadata condition).unclosed

end Statement

namespace Work

theorem unclosed_ofReply (limit : Duration) (reply : Reply α) : Unclosed (ofReply limit reply) := by
  cases reply <;> nofun

theorem unclosed_readable (row : Row) : Unclosed (readable row) := by
  unfold readable
  split <;> nofun

theorem unclosed_checkBatch (operation : String) (size : Nat) : Unclosed (checkBatch operation size) := by
  unfold checkBatch
  split
  · nofun
  · split <;> nofun

theorem unclosed_boundModel (s : Surroundings σ) (operation : String) (condition : Condition) :
    Unclosed (boundModel s operation condition) :=
  (prepared_boundModel s operation condition).unclosed

theorem unclosed_modelFor (s : Surroundings σ) (model : Model α) (condition : Condition) :
    Unclosed (modelFor s model condition) :=
  (prepared_modelFor s model condition).unclosed

theorem unclosed_savable (s : Surroundings σ) (model : Model α) (objects : List α) :
    Unclosed (savable s model objects) :=
  .bind (unclosed_checkBatch "save" objects.length) fun _ => unclosed_lookup s.registry model.name

theorem unclosed_reading (database : Option String) (complex : Bool) (metadata : Metadata) (condition : Condition) :
    Unclosed (reading database complex metadata condition) :=
  (prepared_reading database complex metadata condition).unclosed

theorem unclosed_totalOf (row : Option Row) : Unclosed (totalOf row) := by
  unfold totalOf
  split
  · nofun
  · nofun
  · refine .bind (unclosed_read 0 .int _) fun _ => ?_
    split <;> exact .pure _

end Work

end RecordMapper
