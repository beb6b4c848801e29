import RecordMapper.Proofs.StatementTexts
import RecordMapper.Proofs.StoredObjects
import RecordMapper.Proofs.UpdatePlaceholders

/-! Names cannot become SQL. Whatever statement is made from a described model, every name in its text has been checked, so
outside of the expressions that a condition is trusted with, its text holds no word of the caller's. -/

namespace RecordMapper
open Outcome Clause

theorem Outcome.forall_of_mapM {step : α → Except ε β} {good : β → Prop} (each : ∀ item result, step item = .ok result → good result)
    {items : List α} {results : List β} (made : items.mapM step = .ok results) : ∀ result ∈ results, good result := by
  have steps := mapM_eq_ok.mp made
  clear made
  induction steps with
  | nil => exact nofun
  | cons first _ ih => exact List.forall_mem_cons.mpr ⟨each _ _ first, ih⟩

theorem Condition.legible_groupRefs {condition : Condition} {groups : List ColumnRef}
    (made : condition.groupRefs = .ok groups) : ∀ column ∈ groups, Legible column := by
  refine forall_of_mapM (fun key column named => ?_) made
  simp only [bind_eq_ok, pure_eq_ok] at named
  obtain ⟨_, checked, rfl⟩ := named
  exact legible_ofKey (checkedName_eq_ok.mp checked)

theorem Condition.legible_sortRefs {condition : Condition} {sorts : List (ColumnRef × Order)}
    (made : condition.sortRefs = .ok sorts) : ∀ sort ∈ sorts, Legible sort.1 := by
  refine forall_of_mapM (fun key sort named => ?_) made
  simp only [bind_eq_ok, pure_eq_ok] at named
  obtain ⟨_, checked, rfl⟩ := named
  exact legible_ofKey (checkedName_eq_ok.mp checked)

/-- A model's metadata, with names that are identifiers. -/
structure Metadata.Checked (metadata : Metadata) : Prop where
  columns : ∀ field ∈ metadata.columns, identifies field.column
  key : identifies metadata.keyColumn

theorem Metadata.checked_of_described {model : Model α} {metadata : Metadata} (described : model.metadata = .ok metadata) :
    metadata.Checked := by
  obtain ⟨_, _, _, listed, key, checked, column, _⟩ := Model.metadata_eq_ok described
  obtain ⟨found, taken, _⟩ := Model.checkedKey_eq_ok.mp checked
  have names : ∀ field ∈ metadata.fields, field.ignored = false → identifies field.column :=
    fun field member stored => Name.check_eq_ok.mp (Model.describeAll_checked listed field member stored)
  refine ⟨fun field member => ?_, ?_⟩
  · obtain ⟨inside, stored⟩ := mem_columns.mp member
    exact names field inside stored
  · rw [column]
    exact names key (List.mem_of_find?_eq_some found) taken

namespace Statement

variable {database : Option String} {metadata : Metadata} {condition : Condition} {statement : Statement}

theorem identifies_field {key : String} {field : Field} (checked : metadata.Checked)
    (found : metadata.field? key = some field) : identifies field.column :=
  checked.columns field (List.mem_of_find?_eq_some found)

theorem identifies_settable {key column : String} (checked : metadata.Checked)
    (made : settable metadata key = .ok column) : identifies column := by
  unfold settable at made
  split at made
  · cases made
  · split at made <;> cases made
    exact identifies_field checked (by assumption)

theorem columns_projection {items : List Item} (checked : metadata.Checked)
    (made : projection metadata condition = .ok items) : ∀ item ∈ items, ∃ name, item = .column name ∧ identifies name := by
  unfold projection at made
  split at made
  · cases made
    intro item member
    obtain ⟨field, inside, rfl⟩ := List.mem_map.mp member
    exact ⟨field.column, rfl, checked.columns field inside⟩
  · refine forall_of_mapM (fun name item readable_ => ?_) made
    unfold readable at readable_
    split at readable_ <;> cases readable_
    exact ⟨_, rfl, identifies_field checked (by assumption)⟩

theorem checked_joinedTable {join : Join} {joined : JoinedTable} (made : joinedTable database join = .ok joined) :
    joined.table.Checked ∧ ∀ name ∈ joined.aliasName, identifies name := by
  obtain ⟨_, within, named, _⟩ := joinedTable_eq_ok.mp made
  exact ⟨TableRef.checked_make within, fun name given => Name.check_eq_ok.mp (named name given)⟩

theorem checked_complexSource {source : RowSource} (made : complexSource database condition = .ok source) :
    source.Checked ∧ source.trusted = (condition.join.map Join.expression).toList := by
  obtain ⟨from_, _, named, within, called, joined⟩ := complexSource_eq_ok.mp made
  obtain ⟨table, aliasName, join⟩ := source
  cases called
  have checked : identifies from_.aliasName := Name.check_eq_ok.mp named
  generalize condition.join = asked at joined ⊢
  cases joined with
  | none => exact ⟨⟨TableRef.checked_make within, by simpa using checked, nofun⟩, rfl⟩
  | @some asked joined found =>
    obtain ⟨_, _, _, _, _, expression⟩ := joinedTable_eq_ok.mp found
    refine ⟨⟨TableRef.checked_make within, by simpa using checked, ?_⟩, congrArg (fun text => [text]) expression⟩
    rintro _ ⟨⟩
    exact checked_joinedTable found

theorem checked_insert {records : List Record} (checked : metadata.Checked)
    (made : insert database metadata records = .ok statement) :
    statement.command.Checked ∧ statement.command.trusted = [] := by
  obtain ⟨rows, table, _, _, within, rfl⟩ := insert_eq_ok.mp made
  refine ⟨⟨TableRef.checked_make within, fun column member => ?_⟩, rfl⟩
  obtain ⟨field, inside, rfl⟩ := List.mem_map.mp member
  exact checked.columns field inside

theorem checked_updateBatch {records : List Record} (checked : metadata.Checked)
    (made : updateBatch database metadata records = .ok statement) :
    statement.command.Checked ∧ statement.command.trusted = [] := by
  obtain ⟨_, _, _, table, within, rfl⟩ := updateBatch_eq_ok.mp made
  refine ⟨⟨TableRef.checked_make within, checked.key, fun column member => ?_⟩, rfl⟩
  obtain ⟨field, inside, rfl⟩ := List.mem_map.mp member
  exact checked.columns field (List.mem_of_mem_filter inside)

theorem checked_updateByCondition (checked : metadata.Checked)
    (made : updateByCondition database metadata condition = .ok statement) :
    statement.command.Checked ∧ statement.command.trusted = [] := by
  obtain ⟨upset, columns, filter, table, _, _, _, _, named, formulas, within, rfl⟩ := updateByCondition_eq_ok.mp made
  have settables := forall_of_mapM (fun key column found => identifies_settable checked found) named
  refine ⟨⟨TableRef.checked_make within, fun column member => ?_, sound_ofPredicates formulas⟩, rfl⟩
  exact settables _ (List.of_mem_zip member).1

theorem checked_deleteByIds {ids : List Value} (checked : metadata.Checked)
    (made : deleteByIds database metadata ids = .ok statement) :
    statement.command.Checked ∧ statement.command.trusted = [] := by
  obtain ⟨table, filled, _, within, rfl⟩ := deleteByIds_eq_ok.mp made
  have legible : Legible (.ofName metadata.keyColumn) := ⟨List.cons_ne_nil _ _, List.forall_mem_singleton.mpr checked.key⟩
  exact ⟨⟨TableRef.checked_make within, ⟨legible, filled⟩, trivial⟩, rfl⟩

theorem checked_deleteByCondition (made : deleteByCondition database metadata condition = .ok statement) :
    statement.command.Checked ∧ statement.command.trusted = [] := by
  obtain ⟨filter, table, _, formulas, within, rfl⟩ := deleteByCondition_eq_ok.mp made
  exact ⟨⟨TableRef.checked_make within, sound_ofPredicates formulas⟩, rfl⟩

theorem checked_table {table : TableRef} (checked : table.Checked) : RowSource.Checked { table } :=
  ⟨checked, by simp, by simp⟩

/-- A projection of columns trusts nobody. -/
theorem untrusted_columns {items : List Item} (columns : ∀ item ∈ items, ∃ name, item = .column name ∧ identifies name) :
    items.filterMap Item.trusted? = [] := by
  refine List.filterMap_eq_nil_iff.mpr fun item member => ?_
  obtain ⟨name, rfl, _⟩ := columns item member
  rfl

theorem trusted_expressions (fields : List String) : (fields.map Item.expression).filterMap Item.trusted? = fields := by
  rw [List.filterMap_map]
  exact List.filterMap_some

theorem checked_select (checked : metadata.Checked) (made : select database metadata condition = .ok statement) :
    statement.command.Checked ∧ statement.command.trusted = [] := by
  obtain ⟨filter, items, table, groups, sorts, formulas, projected, within, grouped, sorted, rfl⟩ := select_eq_ok.mp made
  have columns := columns_projection checked projected
  refine ⟨⟨?_, ?_, checked_table (TableRef.checked_make within), sound_ofPredicates formulas,
    Condition.legible_groupRefs grouped, Condition.legible_sortRefs sorted⟩, ?_⟩
  · intro item member name same
    obtain ⟨column, rfl, identified⟩ := columns item member
    cases same
    exact identified
  · intro item member label same
    obtain ⟨column, rfl, _⟩ := columns item member
    cases same
  · exact (List.append_nil _).trans (untrusted_columns columns)

theorem checked_exists (made : exists? database metadata condition = .ok statement) :
    statement.command.Checked ∧ statement.command.trusted = [] := by
  obtain ⟨filter, table, formulas, within, rfl⟩ := exists_eq_ok.mp made
  refine ⟨⟨?_, ?_, checked_table (TableRef.checked_make within), sound_ofPredicates formulas, nofun, nofun⟩, rfl⟩
  · simp
  · simp

/-- The query of a condition with its own source. -/
theorem checked_complex {source : RowSource} {filter : List Formula} {groups : List ColumnRef}
    {sorts : List (ColumnRef × Order)} (from_ : complexSource database condition = .ok source)
    (formulas : condition.formulas = .ok filter) (grouped : ∀ column ∈ groups, Legible column)
    (sorted : ∀ sort ∈ sorts, Legible sort.1) :
    let query : Query := ⟨condition.fields.map .expression, source, filter, groups, sorts⟩
    query.Checked ∧ query.trusted = condition.fields ++ (condition.join.map Join.expression).toList := by
  intro query
  obtain ⟨checked, joined⟩ := checked_complexSource from_
  refine ⟨⟨?_, ?_, checked, sound_ofPredicates formulas, grouped, sorted⟩, ?_⟩
  · simp [query]
  · simp [query]
  · exact congrArg₂ (· ++ ·) (trusted_expressions condition.fields) joined

theorem checked_selectComplex (made : selectComplex database condition = .ok statement) :
    statement.command.Checked ∧
      statement.command.trusted = condition.fields ++ (condition.join.map Join.expression).toList := by
  obtain ⟨source, filter, groups, sorts, _, from_, formulas, grouped, sorted, rfl⟩ := selectComplex_eq_ok.mp made
  exact checked_complex from_ formulas (Condition.legible_groupRefs grouped) (Condition.legible_sortRefs sorted)

theorem checked_count {counted : Option Metadata} (made : count database counted condition = .ok statement) :
    statement.command.Checked ∧
      statement.command.trusted =
        if condition.isComplex then condition.fields ++ (condition.join.map Join.expression).toList else [] := by
  obtain ⟨filter, groups, formulas, grouped, whole⟩ := count_eq_ok.mp made
  have legible := Condition.legible_groupRefs grouped
  rcases whole with ⟨complex, _, source, from_, rfl⟩ | ⟨simple, table, within, rfl⟩
  · rw [if_pos complex]
    exact checked_complex from_ formulas legible nofun
  · rw [simple]
    -- without a source of its own a condition counts the model's table, and has no trusted expressions
    have checked : table.Checked := by
      cases counted with
      | none => cases within
      | some metadata => exact TableRef.checked_make within
    split
    · exact ⟨⟨checked_table checked, sound_ofPredicates formulas⟩, rfl⟩
    · refine ⟨⟨?_, ?_, checked_table checked, sound_ofPredicates formulas, legible, nofun⟩, rfl⟩
      · simp
      · simp

theorem paginate_all (statement : Statement) (pages : List PagePlan) :
    pages.foldl paginate statement = ⟨statement.command, statement.limits ++ pages⟩ := by
  induction pages generalizing statement with
  | nil => simp
  | cons page rest ih => simp [ih, paginate]

end Statement

/-- Statements that are made from a model's metadata, each with the expressions that its condition is trusted with. -/
inductive Statement.Made (database : Option String) (metadata : Metadata) (condition : Condition) :
    Statement → List String → Prop where
  | insert {records statement} (made : Statement.insert database metadata records = .ok statement) :
      Made database metadata condition statement []
  | updateBatch {records statement} (made : Statement.updateBatch database metadata records = .ok statement) :
      Made database metadata condition statement []
  | updateByCondition {statement} (made : Statement.updateByCondition database metadata condition = .ok statement) :
      Made database metadata condition statement []
  | deleteByIds {ids statement} (made : Statement.deleteByIds database metadata ids = .ok statement) :
      Made database metadata condition statement []
  | deleteByCondition {statement} (made : Statement.deleteByCondition database metadata condition = .ok statement) :
      Made database metadata condition statement []
  | select {statement} (made : Statement.select database metadata condition = .ok statement) :
      Made database metadata condition statement []
  | exists? {statement} (made : Statement.exists? database metadata condition = .ok statement) :
      Made database metadata condition statement []
  | selectComplex {statement} (made : Statement.selectComplex database condition = .ok statement) :
      Made database metadata condition statement (condition.fields ++ (condition.join.map Join.expression).toList)
  | count {counted statement} (made : Statement.count database counted condition = .ok statement) :
      Made database metadata condition statement
        (if condition.isComplex then condition.fields ++ (condition.join.map Join.expression).toList else [])

namespace Statement

variable {database : Option String} {metadata : Metadata} {condition : Condition} {statement : Statement}

theorem checked_of_made {trusted : List String} (checked : metadata.Checked)
    (made : Made database metadata condition statement trusted) :
    statement.command.Checked ∧ statement.command.trusted = trusted := by
  cases made with
  | insert made => exact checked_insert checked made
  | updateBatch made => exact checked_updateBatch checked made
  | updateByCondition made => exact checked_updateByCondition checked made
  | deleteByIds made => exact checked_deleteByIds checked made
  | deleteByCondition made => exact checked_deleteByCondition made
  | select made => exact checked_select checked made
  | exists? made => exact checked_exists made
  | selectComplex made => exact checked_selectComplex made
  | count made => exact checked_count made

/-- Names cannot inject SQL. The text of a statement that is made from a described model, with limit clauses or without, is cut
into fixed words and marks, the numbers of the limits, placeholders and quoted identifiers, all but the expressions that
the condition is trusted with; only a read over the condition's own source has these. -/
theorem names_cannot_inject {model : Model α} (described : model.metadata = .ok metadata) {known : Known}
    (real : known = .mysql ∨ known = .sqlite) {trusted : List String}
    (made : Made database metadata condition statement trusted) (pages : List PagePlan) :
    let paged := pages.foldl paginate statement
    PlainAround known (limitNumbers paged.limits) trusted (paged.text known.dialect) ∧
      (trusted = [] → PlainText known (limitNumbers paged.limits) (paged.text known.dialect)) := by
  intro paged
  obtain ⟨checked, same⟩ := checked_of_made (Metadata.checked_of_described described) made
  have marked : known.slotMark = '?' := by
    rcases real with rfl | rfl <;> rfl
  have command : paged.command = statement.command := by rw [show paged = _ from paginate_all statement pages]
  have plain := plainAround_text marked (show paged.command.Checked by rwa [command])
  rw [command, same] at plain
  refine ⟨plain, ?_⟩
  rintro rfl
  exact plain.whole

/-- A read over joined tables, with a page: its own text is plain around the two columns and the expression to join on. -/
theorem joined_read_plain :
    let condition : Condition :=
      { predicates := [.compare "w.time" (.versus .gt (.int 5))], sorts := [⟨"w.time", .desc⟩]
        fields := ["w.id", "COUNT(*)"], source := some ⟨"wallet", "w"⟩, join := some ⟨.left, "token t", "t.owner = w.id"⟩ }
    ∃ statement, selectComplex none condition = .ok statement ∧
      (statement.paginate ⟨20, 10⟩).text .sqlite =
        "SELECT w.id, COUNT(*) FROM \"wallet\" \"w\" LEFT JOIN \"token\" \"t\" ON t.owner = w.id" ++
          " WHERE \"w\".\"time\" > ? ORDER BY \"w\".\"time\" DESC LIMIT 10 OFFSET 20" ∧
      PlainAround .sqlite [20, 10] ["w.id", "COUNT(*)", "t.owner = w.id"] ((statement.paginate ⟨20, 10⟩).text .sqlite) := by
  intro condition
  have described : token.metadata = .ok tokenMetadata := rfl
  have made : Made none tokenMetadata condition _ _ := .selectComplex rfl
  exact ⟨_, rfl, by decide +kernel, (names_cannot_inject described (.inr rfl) made [⟨20, 10⟩]).1⟩

end Statement

end RecordMapper
