import RecordMapper.Proofs.RowUpdates
import RecordMapper.Proofs.UpdatePlaceholders

/-! What an update by condition is made for, and what it does to the rows of a model's table. The rows that meet the
condition take over the new values in the columns that are named; the key, all other columns and all other rows stay as
they are. -/

namespace RecordMapper
open Clause

namespace Statement
open Outcome

variable {metadata : Metadata} {database : Option String} {condition : Condition} {statement : Statement}

theorem settable_eq_ok (described : metadata.Described) (key column : String) :
    settable metadata key = .ok column ↔ (∃ field ∈ metadata.dataColumns, field.column = key) ∧ column = key := by
  rw [settable]
  constructor
  · intro allowed
    split at allowed
    · cases allowed
    next field found =>
      split at allowed
      · cases allowed
      next data =>
        cases allowed
        have same : field.column = key := by simpa using List.find?_some found
        exact ⟨⟨field, List.mem_filter.mpr ⟨List.mem_of_find?_eq_some found, by simpa using data⟩, same⟩, same⟩
  · rintro ⟨⟨field, member, rfl⟩, rfl⟩
    obtain ⟨inside, data⟩ := List.mem_filter.mp member
    rw [described.field?_column inside]
    exact if_neg (by simpa using data)

/-- What an update by condition is made from: its columns are the keys as they are given. -/
theorem updateByCondition_described (described : metadata.Described) :
    updateByCondition database metadata condition = .ok statement ↔
      ∃ upset filter table, condition.upset = some upset ∧ upset.keys ≠ [] ∧ upset.keys.length = upset.values.length ∧
        condition.restrictsRows = true ∧ (∀ key ∈ upset.keys, ∃ field ∈ metadata.dataColumns, field.column = key) ∧
        condition.formulas = .ok filter ∧ TableRef.make database metadata.table = .ok table ∧
        statement = ⟨.updateWhere table (upset.keys.zip upset.values) filter, []⟩ := by
  simp only [updateByCondition_eq_ok, mapM_eq_ok_map (settable_eq_ok described), List.map_id']
  constructor
  · rintro ⟨upset, _, filter, table, given, some, same, restricts, ⟨named, rfl⟩, formulas, within, rfl⟩
    exact ⟨upset, filter, table, given, some, same, restricts, named, formulas, within, rfl⟩
  · rintro ⟨upset, filter, table, given, some, same, restricts, named, formulas, within, rfl⟩
    exact ⟨upset, _, filter, table, given, some, same, restricts, ⟨named, rfl⟩, formulas, within, rfl⟩

theorem whereClause_succeeds (dialect : Dialect) :
    (∃ clause, whereClause dialect condition = .ok clause) ↔ ∃ filter, condition.formulas = .ok filter := by
  constructor
  · rintro ⟨⟨clause, params⟩, built⟩
    obtain ⟨filter, made, _⟩ := whereClause_eq_ok.mp built
    exact ⟨filter, made⟩
  · rintro ⟨filter, made⟩
    exact ⟨_, whereClause_eq_ok.mpr ⟨filter, made, rfl, rfl⟩⟩

theorem updateByCondition_succeeds {model : Model α} (described : model.metadata = .ok metadata)
    (distinct : metadata.blank.names.Nodup) (dialect : Dialect) :
    (∃ statement, updateByCondition database metadata condition = .ok statement) ↔
      ∃ upset, condition.upset = some upset ∧ upset.keys ≠ [] ∧ upset.keys.length = upset.values.length ∧
        condition.restrictsRows = true ∧
        (∀ key ∈ upset.keys, key ≠ metadata.keyColumn ∧
          ∃ field ∈ metadata.fields, field.column = key ∧ field.ignored = false) ∧
        (∃ clause, whereClause dialect condition = .ok clause) ∧ Name.check metadata.table = .ok () ∧
        ∀ name, database = some name → name ≠ "" → Name.check name = .ok () := by
  have data (key : String) : (∃ field ∈ metadata.dataColumns, field.column = key) ↔
      key ≠ metadata.keyColumn ∧ ∃ field ∈ metadata.fields, field.column = key ∧ field.ignored = false := by
    have isKey := Model.isKey_iff described
    simp only [Metadata.dataColumns, List.mem_filter, Metadata.mem_columns, Bool.not_eq_true', ← Bool.not_eq_true]
    constructor
    · rintro ⟨field, ⟨⟨member, stored⟩, besides⟩, rfl⟩
      exact ⟨mt (isKey field member).mpr besides, field, member, rfl, stored⟩
    · rintro ⟨other, field, member, rfl, stored⟩
      exact ⟨field, ⟨⟨member, stored⟩, mt (isKey field member).mp other⟩, rfl⟩
  simp only [updateByCondition_described (.of_model described distinct), whereClause_succeeds, ← make_succeeds, ← data]
  constructor
  · rintro ⟨_, upset, filter, table, given, some, same, restricts, named, formulas, within, _⟩
    exact ⟨upset, given, some, same, restricts, named, ⟨filter, formulas⟩, table, within⟩
  · rintro ⟨upset, given, some, same, restricts, named, ⟨filter, formulas⟩, table, within⟩
    exact ⟨_, upset, filter, table, given, some, same, restricts, named, formulas, within, rfl⟩

/-- The text of an update by condition, where values are written out. -/
def updateWhereText (table : TableRef) (columns : List (String × Value)) (filter : List Formula) (dialect : Dialect)
    (print : Value → String) : String :=
  let setting (entry : String × Value) := dialect.quote entry.1 ++ " = " ++ print entry.2
  "UPDATE " ++ table.quoted dialect ++ " SET " ++ String.intercalate ", " (columns.map setting) ++ " WHERE " ++
    Piece.printed dialect print (Formula.allPieces filter)

theorem printed_settingPieces (dialect : Dialect) (print : Value → String) (table : TableRef)
    (columns : List (String × Value)) :
    Piece.printed dialect print (settingPieces table columns) =
      "UPDATE " ++ table.quoted dialect ++ " SET " ++
        String.intercalate ", " (columns.map fun entry => dialect.quote entry.1 ++ " = " ++ print entry.2) := by
  have each (entry : String × Value) :
      Piece.printed dialect print [.name entry.1, .fixed " = ", .slot entry.2] =
        dialect.quote entry.1 ++ " = " ++ print entry.2 := by
    simp [Piece.printed, Piece.printedOne, Piece.text, String.append_assoc]
  rw [settingPieces, Piece.printed_cons, Piece.printed_append, TableRef.printed_pieces, Piece.printed_cons,
    Piece.printed_separated, List.map_map]
  simp only [Function.comp_def, each, Piece.printedOne, Piece.text, String.append_assoc]

/-- Where placeholders do not show their number, the places of an update by condition are those of its parameters in
their order. -/
theorem text_updateWhere_steady {dialect : Dialect} (steady : ∀ index, dialect.placeholder index = dialect.placeholder 1)
    (table : TableRef) {keys : List String} {values : List Value} (same : keys.length = values.length)
    {filter : List Formula} (filled : filter ≠ []) :
    ∃ template : Template,
      template.places = (values ++ Piece.params (Formula.allPieces filter)).length ∧
      text dialect ⟨.updateWhere table (keys.zip values) filter, []⟩ =
        template.fill (Template.numbered dialect.placeholder (values ++ Piece.params (Formula.allPieces filter)).length) ∧
      ∀ print, template.fill ((values ++ Piece.params (Formula.allPieces filter)).map print) =
        updateWhereText table (keys.zip values) filter dialect print := by
  let setting := Template.atSlots dialect (settingPieces table (keys.zip values))
  let clause := Template.atSlots dialect (Formula.allPieces filter)
  have bound := params_settingPieces table same
  have first : setting.places = values.length := by rw [Template.places_atSlots, bound]
  have second : clause.places = (Piece.params (Formula.allPieces filter)).length := Template.places_atSlots dialect _
  refine ⟨(setting.append (.plain " WHERE ")).append clause, ?_, ?_, fun print => ?_⟩
  · rw [Template.places_append, Template.places_append, first, second, List.length_append]
    rfl
  · have marks : (Template.numbered dialect.placeholder values.length).length = setting.places := by
      rw [Template.length_numbered, first]
    rw [List.length_append, ← Template.numbered_append (.inl steady), Template.fill_joined setting clause _ marks]
    exact text_updateWhere dialect dialect.placeholder table same filled
  · have marks : (values.map print).length = setting.places := by rw [List.length_map, first]
    have written : setting.fill (values.map print) = _ :=
      (congrArg (fun params => setting.fill (List.map print params)) bound.symm).trans
        (Template.fill_params dialect print (settingPieces table (keys.zip values)))
    rw [List.map_append, Template.fill_joined setting clause _ marks, written, Template.fill_params,
      printed_settingPieces]
    rfl

end Statement

namespace Table

/-- Whether a row meets the predicates of a condition. -/
def meets (table : Table) (condition : Condition) (row : Tuple) : Bool :=
  (predicatesValue (storeView (table.env row)) condition.predicates).isTrue

theorem passes_eq_meets (table : Table) {condition : Condition} {filter : List Formula}
    (formulas : condition.formulas = .ok filter) (row : Tuple) :
    Formula.passes (table.env row) filter = table.meets condition row := by
  rw [Formula.passes, meets, allTruth_eq_value _ filter 0, value_ofPredicates _ formulas]

end Table

/-- The columns of an upset with their new values. -/
def Upset.columns (upset : Upset) : List (String × Value) := upset.keys.zip upset.values

/-- The columns of an upset with what is put into them. -/
def Upset.data (upset : Upset) : List (String × Datum) := upset.columns.map (Prod.map id .ofValue)

namespace Upset

variable {upset : Upset} (same : upset.keys.length = upset.values.length)
include same

theorem names_columns : upset.columns.map Prod.fst = upset.keys := List.map_fst_zip (Nat.le_of_eq same)

theorem names_data : upset.data.map Prod.fst = upset.keys := by
  rw [data, List.map_map]
  exact names_columns same

end Upset

/-- What an update by condition makes of a row that meets the condition: the last value that is given for a column is put
into it, and all else stays as it was. -/
structure Metadata.Sets (metadata : Metadata) (upset : Upset) (before after : Tuple) : Prop where
  columns : after.map Prod.fst = before.map Prod.fst
  key : after.get metadata.keyColumn = before.get metadata.keyColumn
  others : ∀ name, name ∉ upset.keys → after.get name = before.get name
  last : ∀ field ∈ metadata.dataColumns, ∀ value, firstNamed? field.column upset.columns.reverse = some value →
    after.get field.column = (Affinity.ofKind field.kind).store (.ofValue value)
  own : upset.keys.Nodup → ∀ field ∈ metadata.dataColumns, ∀ value, (field.column, value) ∈ upset.columns →
    after.get field.column = (Affinity.ofKind field.kind).store (.ofValue value) ∧
      (value.Suits field.kind → after.get field.column = value.held)

/-- The keys of an upset are columns besides the key, and each of them has its value. -/
structure Metadata.Admits (metadata : Metadata) (upset : Upset) : Prop where
  same : upset.keys.length = upset.values.length
  named : ∀ key ∈ upset.keys, ∃ field ∈ metadata.dataColumns, field.column = key

namespace Table.Stores

variable {table : Table} {metadata : Metadata} (stores : table.Stores metadata) {upset : Upset}
  (admitted : metadata.Admits upset)
include stores admitted

theorem updateWhere_eq {condition : Condition} {filter : List Formula} (formulas : condition.formulas = .ok filter) :
    table.updateWhere upset.columns filter =
      table.checkFilter filter >>= fun _ => table.updateRows (table.meets condition) fun _ => upset.data := by
  have known : ∀ key ∈ upset.keys, ∃ field ∈ metadata.columns, field.column = key := by
    intro key member
    obtain ⟨field, data, column⟩ := admitted.named key member
    exact ⟨field, List.mem_of_mem_filter data, column⟩
  have names : table.ownNames noColumn (upset.columns.map Prod.fst) = .ok upset.keys := by
    rw [Upset.names_columns admitted.same]
    exact stores.ownNames_columns noColumn known
  have data : upset.keys.zip (upset.columns.map fun entry => Datum.ofValue entry.2) = upset.data := by
    rw [← Upset.names_columns admitted.same, List.zip_map']
    rfl
  have chosen : (fun row => Formula.passes (table.env row) filter) = table.meets condition :=
    funext (table.passes_eq_meets formulas)
  rw [updateWhere, names, chosen, ← data]
  rfl

theorem unset_unique (described : metadata.Described) {name : String} (unique : name ∈ table.uniqueNames) :
    name ∉ upset.data.map Prod.fst := by
  rw [Upset.names_data admitted.same]
  intro given
  obtain ⟨field, data, rfl⟩ := admitted.named name given
  exact stores.data_not_unique described data unique

end Table.Stores

namespace Table.Holds

variable {table : Table} {metadata : Metadata} (holds : table.Holds metadata) (described : metadata.Described)
  {upset : Upset} (admitted : metadata.Admits upset) {condition : Condition}
include holds described admitted

theorem sets {row : Tuple} (member : row ∈ table.rows) : metadata.Sets upset row (table.assign upset.data row) := by
  have names := Upset.names_data admitted.same
  have stored {field : Field} (data : field ∈ metadata.dataColumns) :
      table.allColumns.find? (fun column => column.name = field.column) = some (Statement.columnDef metadata field) ∧
        field.column ∈ row.map Prod.fst :=
    have inside := List.mem_of_mem_filter data
    ⟨holds.find?_column described inside, holds.present row member field inside⟩
  have own (distinct : upset.keys.Nodup) {field : Field} (data : field ∈ metadata.dataColumns) {value : Value}
      (given : (field.column, value) ∈ upset.columns) :
      (table.assign upset.data row).get field.column = (Affinity.ofKind field.kind).store (.ofValue value) :=
    get_assign_mem (names ▸ distinct) (List.mem_map_of_mem (f := Prod.map id Datum.ofValue) given) (stored data).1
      (stored data).2
  refine ⟨names_assign _ _ _, ?_, fun name absent => ?_, fun field data value last => ?_, ?_⟩
  · exact get_assign (holds.unset_unique admitted described (holds.key_unique described)) _ _
  · exact get_assign (names ▸ absent) _ _
  · refine get_assign_last ?_ (stored data).1 (stored data).2
    rw [Upset.data, ← List.map_reverse, firstNamed?_map, last]
    rfl
  · intro distinct field data value given
    refine ⟨own distinct data given, fun suits => ?_⟩
    rw [own distinct data given, Affinity.store_ofValue suits]

theorem refused_where {fault : Fault}
    (failed : table.updateRows (table.meets condition) (fun _ => upset.data) = .error fault) :
    ∃ row ∈ table.rows, table.meets condition row = true ∧ ∃ field ∈ metadata.dataColumns,
      (Statement.columnDef metadata field).required = true ∧
      (∃ value, (field.column, value) ∈ upset.columns ∧ (Affinity.ofKind field.kind).store (.ofValue value) = .null) ∧
      fault = .notNull table.name field.column := by
  obtain ⟨row, member, column, lacks, rfl⟩ :=
    updateRows_error (fun _ _ unique => holds.unset_unique admitted described unique) holds.kept failed
  have meets : table.meets condition row = true := by
    by_contra fails
    rw [updatedRow, if_neg fails, holds.kept.lacking row member] at lacks
    cases lacks
  rw [updatedRow, if_pos meets] at lacks
  have sets := holds.sets described admitted member
  obtain ⟨field, data, rfl, required, missing⟩ := holds.lacking?_eq_some lacks
  -- The row had what is required, so that the column is one of those that are set.
  have given : field.column ∈ upset.keys := by
    by_contra absent
    exact holds.get_ne_null (holds.kept.lacking row member) data required ((sets.others _ absent).symm.trans missing)
  have listed : field.column ∈ upset.columns.reverse.map Prod.fst := by
    rw [List.map_reverse, Upset.names_columns admitted.same]
    exact List.mem_reverse.mpr given
  obtain ⟨value, last⟩ := firstNamed?_of_mem listed
  have stored := sets.last field data value last
  exact ⟨row, member, meets, field, data, required,
    ⟨value, List.mem_reverse.mp (mem_of_firstNamed? last), stored.symm.trans missing⟩, rfl⟩

theorem updated_where {count : Nat} {changed : Table}
    (made : table.updateRows (table.meets condition) (fun _ => upset.data) = .ok (count, changed)) :
    changed.Holds metadata ∧ changed.name = table.name ∧ count = table.rows.countP (table.meets condition) ∧
      List.Forall₂ (fun before after =>
        if table.meets condition before then metadata.Sets upset before after else after = before)
        table.rows changed.rows := by
  obtain ⟨still, name, counted, rows⟩ :=
    holds.updateRows described (fun _ _ unique => holds.unset_unique admitted described unique) made
  refine ⟨still, name, counted, ?_⟩
  rw [rows, List.forall₂_map_right_iff, List.forall₂_same]
  intro row member
  rw [updatedRow]
  split
  · exact holds.sets described admitted member
  · rfl

end Table.Holds

namespace Statement

variable {condition : Condition}

/-- How an update by condition is written: its places are those of its parameters in their order, those of the new values
before those of the clause, and the clause reads as what the predicates of the condition are for every row. -/
structure Spells (known : Known) (table : TableRef) (upset : Upset) (condition : Condition) (statement : Statement)
    (filter : List Formula) (values : List Value) : Prop where
  params : statement.params = upset.values ++ values
  text : ∃ template : Template, template.places = statement.params.length ∧
    statement.text known.dialect = template.fill (Template.numbered known.dialect.placeholder statement.params.length) ∧
    ∀ print, template.fill (statement.params.map print) = updateWhereText table upset.columns filter known.dialect print
  clause : ∃ clause, whereClause known.dialect condition = .ok (clause, values) ∧ ∃ branches,
    read? known values clause = some branches ∧
      ∀ row, anyValue (fun _ => row) 0 branches = predicatesValue row condition.predicates

theorem spells_updateWhere {known : Known} (steady : known = .mysql ∨ known = .sqlite) (table : TableRef) {upset : Upset}
    (same : upset.keys.length = upset.values.length) (restricts : condition.restrictsRows = true) {filter : List Formula}
    (formulas : condition.formulas = .ok filter) :
    Spells known table upset condition ⟨.updateWhere table upset.columns filter, []⟩ filter
      (Piece.params (Formula.allPieces filter)) := by
  have marks : ∀ index, known.dialect.placeholder index = known.dialect.placeholder 1 := by
    rcases steady with rfl | rfl <;> exact fun _ => rfl
  have filled : filter ≠ [] := by
    rintro rfl
    have fails : allValue allFail 0 [] = .no := fails_ofPredicates restricts formulas 0
    cases fails
  have params : params ⟨.updateWhere table upset.columns filter, []⟩ = _ := params_updateWhere table same filter
  refine ⟨params, ?_, _, whereClause_eq_ok.mpr ⟨filter, formulas, rfl, rfl⟩, _,
    read_clause known filled (sound_ofPredicates formulas), fun row => ?_⟩
  · rw [params]
    exact text_updateWhere_steady marks table same filled
  · rw [value_read]
    exact value_ofPredicates row formulas 0

/-- The store checks the filter and then puts the new values into the rows that meet the condition. -/
theorem runCommand_updateWhere {metadata : Metadata} {upset : Upset} (admitted : metadata.Admits upset)
    {filter : List Formula} (formulas : condition.formulas = .ok filter) {tables : Tables} {ref : TableRef} {table : Table}
    (found : tables.find ref = .ok table) (stores : table.Stores metadata) :
    Database.runCommand tables (.updateWhere ref upset.columns filter) = (do
      table.checkFilter filter
      let (count, changed) ← table.updateRows (table.meets condition) fun _ => upset.data
      return (.touched count, Database.replace tables changed)) := by
  have known : tables.find ref = pure table := found
  rw [Database.runCommand, Database.onTable, known, pure_bind, stores.updateWhere_eq admitted formulas, bind_assoc]

/-- An update by condition changes only what it names. It is made for exactly the conditions that set columns besides the
key, each to a value, that leave rows out, and whose clause and names are good. MySQL and SQLite take its parameters in their
places. Where it runs, the rows on which the condition's predicates are true are counted and take over the new values, and
nothing else changes; it is refused only if the store cannot evaluate the clause or a row would lack a value that the
table needs. -/
theorem update_changes_only_what_it_names {model : Model α} {metadata : Metadata} (described : model.metadata = .ok metadata)
    (distinct : metadata.blank.names.Nodup) (database : Option String) (condition : Condition) :
    (∀ dialect, (∃ statement, updateByCondition database metadata condition = .ok statement) ↔
      ∃ upset, condition.upset = some upset ∧ upset.keys ≠ [] ∧ upset.keys.length = upset.values.length ∧
        condition.restrictsRows = true ∧
        (∀ key ∈ upset.keys, key ≠ metadata.keyColumn ∧
          ∃ field ∈ metadata.fields, field.column = key ∧ field.ignored = false) ∧
        (∃ clause, whereClause dialect condition = .ok clause) ∧ Name.check metadata.table = .ok () ∧
        ∀ name, database = some name → name ≠ "" → Name.check name = .ok ()) ∧
    ∀ statement, updateByCondition database metadata condition = .ok statement →
      ∃ upset filter values ref, condition.upset = some upset ∧ condition.formulas = .ok filter ∧
        TableRef.make database metadata.table = .ok ref ∧
        (∀ known : Known, known = .mysql ∨ known = .sqlite → Spells known ref upset condition statement filter values) ∧
        ∀ tables table, Tables.find tables ref = .ok table → table.Holds metadata →
          match Database.runCommand tables statement.command with
          | .ok (answer, after) =>
            answer = .touched (table.rows.countP (table.meets condition)) ∧
            ∃ changed, after = Database.replace tables changed ∧ changed.Holds metadata ∧ changed.name = table.name ∧
              List.Forall₂ (fun before after =>
                if table.meets condition before then metadata.Sets upset before after else after = before)
                table.rows changed.rows
          | .error fault =>
            table.checkFilter filter = .error fault ∨
            ∃ row ∈ table.rows, table.meets condition row = true ∧ ∃ field ∈ metadata.dataColumns,
              (columnDef metadata field).required = true ∧
              (∃ value, (field.column, value) ∈ upset.columns ∧
                (Affinity.ofKind field.kind).store (.ofValue value) = .null) ∧
              fault = .notNull table.name field.column := by
  have known := Metadata.Described.of_model described distinct
  refine ⟨fun dialect => updateByCondition_succeeds described distinct dialect, fun statement made => ?_⟩
  obtain ⟨upset, filter, ref, given, _, same, restricts, named, formulas, within, rfl⟩ :=
    (updateByCondition_described known).mp made
  refine ⟨upset, filter, Piece.params (Formula.allPieces filter), ref, given, formulas, within,
    fun reader steady => spells_updateWhere steady ref same restricts formulas, ?_⟩
  intro tables table found holds
  have admitted : metadata.Admits upset := ⟨same, named⟩
  have command : Command.updateWhere ref (upset.keys.zip upset.values) filter = .updateWhere ref upset.columns filter := rfl
  rw [command, runCommand_updateWhere admitted formulas found holds.toStores]
  cases checked : table.checkFilter filter with
  | error fault => exact .inl rfl
  | ok accepted =>
    cases ran : table.updateRows (table.meets condition) fun _ => upset.data with
    | error fault => exact .inr (holds.refused_where known admitted ran)
    | ok result =>
      obtain ⟨count, changed⟩ := result
      obtain ⟨still, name, rfl, rows⟩ := holds.updated_where known admitted ran
      exact ⟨rfl, changed, rfl, still, name, rows⟩

end Statement

/-- A table of two counters. -/
def counterPair : Table := { counterTable 1 0 with rows := (counterTable 1 0).rows ++ (counterTable 2 0).rows }

def counterChange : Condition where
  predicates := [.compare "id" (.versus .eq (.int 1))]
  upset := some ⟨["count"], [.int 5]⟩

theorem counterPair_kept : counterPair.Kept := by
  have sorted : Table.sortedBy "id" counterPair.rows = counterPair.rows := List.mergeSort_of_pairwise (by decide)
  have names : counterPair.uniqueNames = ["id", "id"] := by decide
  have rowKey : counterPair.rowKey.name = "id" := by decide
  refine Table.withRows_eq_ok.mpr ⟨by decide, by decide, fun name unique => ?_, ?_⟩
  · obtain rfl : name = "id" := by simpa [names] using unique
    rw [rowKey, sorted, sorted]
    decide
  · rw [rowKey, sorted]

namespace Statement

/-- Of two counters, the one that meets the condition is set. -/
theorem one_of_two_counters_set :
    ∃ statement changed, updateByCondition none counterMetadata counterChange = .ok statement ∧
      statement.params = [.int 5, .int 1] ∧
      statement.text .sqlite = "UPDATE \"counter\" SET \"count\" = ? WHERE \"id\" = ?" ∧
      Database.runCommand [counterPair] statement.command =
        .ok (.touched 1, Database.replace [counterPair] changed) ∧
      changed.dataIn "id" = [.int 1, .int 2] ∧ changed.dataIn "count" = [.int 5, .int 0] := by
  have made : updateByCondition none counterMetadata counterChange =
    .ok ⟨.updateWhere ⟨none, "counter"⟩ [("count", .int 5)] [.versus (.ofKey "id") .eq (.int 1)], []⟩ := rfl
  have holds : counterPair.Holds counterMetadata :=
    { columns := rfl
      unalike := by decide
      kept := counterPair_kept
      present := by decide
      plain := by decide }
  obtain ⟨_, succeeds⟩ :=
    update_changes_only_what_it_names (rfl : counter.metadata = .ok counterMetadata) (by decide) none counterChange
  obtain ⟨upset, filter, values, ref, given, formulas, named, _, runs⟩ := succeeds _ made
  cases given
  cases formulas
  cases named
  have written := runs [counterPair] counterPair rfl holds
  cases ran : Database.runCommand [counterPair]
      (.updateWhere ⟨none, "counter"⟩ [("count", .int 5)] [.versus (.ofKey "id") .eq (.int 1)]) with
  | error fault =>
    rw [ran] at written
    rcases written with refused | ⟨_, _, _, field, data, _, ⟨value, given, null⟩, _⟩
    · cases refused
    · obtain rfl := List.mem_singleton.mp data
      obtain ⟨_, rfl⟩ := Prod.mk.inj (List.mem_singleton.mp given)
      cases null
  | ok result =>
    obtain ⟨answer, after⟩ := result
    rw [ran] at written
    obtain ⟨rfl, changed, rfl, _, _, rows⟩ := written
    obtain ⟨first, _, sets, others, both⟩ := List.forall₂_cons_left_iff.mp rows
    obtain ⟨second, _, spared, ends, rfl⟩ := List.forall₂_cons_left_iff.mp others
    obtain rfl := List.forall₂_nil_left_iff.mp ends
    have sets : counterMetadata.Sets ⟨["count"], [.int 5]⟩ [("id", .int 1), ("count", .int 0)] first := sets
    have spared : second = [("id", .int 2), ("count", .int 0)] := spared
    have own := sets.own (by decide) ⟨"count", .int, false, false, none⟩ (by decide) (.int 5) (by decide)
    refine ⟨_, changed, made, rfl, by decide, ran, ?_, ?_⟩
    · rw [Table.dataIn, both, spared]
      exact congrArg (· :: _) sets.key
    · rw [Table.dataIn, both, spared]
      exact congrArg (· :: _) (own.2 (.inr rfl))

end Statement

end RecordMapper
