import RecordMapper.Proofs.ModelRecords
import RecordMapper.Proofs.TableUpdates
import RecordMapper.Proofs.UpdateBatches
import RecordMapper.Relational.Database
import RecordMapper.Sql.Tables

/-! The table of a model among others, and what updates of batches do to it: each row whose key is that of a record takes
over the values of the first such record. -/

namespace RecordMapper

namespace Name

theorem alike_iff {first second : String} :
    alike first second = true ↔ first.toList.map Char.toLower = second.toList.map Char.toLower := by simp [alike]

theorem alike_refl (name : String) : alike name name = true := by simp [alike]

theorem alike_congr {first second : String} (same : alike first second = true) (name : String) :
    alike name first = alike name second := by
  rw [alike, alike, alike_iff.mp same]

end Name

namespace Likeness

theorem among_isTrue (likeness : Likeness) (datum : Datum) (others : List Datum) :
    (likeness.among datum others).isTrue = others.any fun other => (likeness.versus .eq datum other).isTrue := by
  induction others with
  | nil => rfl
  | cons other rest ih =>
    rw [List.any_cons, ← ih, among, List.map_cons, Truth.any, List.foldr_cons, ← Truth.any, ← among]
    cases likeness.versus .eq datum other <;> cases likeness.among datum rest <;> rfl

theorem versus_isTrue {likeness : Likeness} {left right : Datum} (given : left.isNull = false)
    (other : right.isNull = false) :
    (likeness.versus .eq left right).isTrue = true ↔ likeness.order left right = .eq := by
  rw [versus, given, other]
  cases likeness.order left right <;> simp [Relation.admits, Truth.ofBool, Truth.isTrue]

theorem order_of_versus {likeness : Likeness} {left right : Datum}
    (same : (likeness.versus .eq left right).isTrue = true) : likeness.order left right = .eq := by
  cases empty : left.isNull || right.isNull with
  | true =>
    rw [versus, if_pos empty] at same
    cases same
  | false =>
    obtain ⟨given, other⟩ := Bool.or_eq_false_iff.mp empty
    exact (versus_isTrue given other).mp same

theorem int_of_order {n m : Int64}
    (same : ({ affinity := .integer } : Likeness).order (.int n) (.int m) = .eq) : n = m := by
  have equal : compare n.toInt m.toInt = .eq := same
  exact Int64.toInt_inj.mp (Std.LawfulEqCmp.eq_of_compare equal)

theorem text_of_order {s t : String}
    (same : ({ affinity := .text } : Likeness).order (.text s) (.text t) = .eq) : s = t := by
  have equal : compare s.toList t.toList = .eq := same
  exact String.toList_inj.mp (Std.LawfulEqCmp.eq_of_compare equal)

end Likeness

theorem Datum.eq_null_of_isNull {datum : Datum} (missing : datum.isNull = true) : datum = .null := by
  cases datum with
  | null => rfl
  | _ => cases missing

theorem Table.choose_append (key : ColumnReading) (arms others : List (Value × Value)) :
    choose key (arms ++ others) =
      if arms.any fun arm => (key.likeness.versus .eq key.datum (.ofValue arm.1)).isTrue then choose key arms
      else choose key others := by
  induction arms with
  | nil => rfl
  | cons arm rest ih =>
    obtain ⟨given, result⟩ := arm
    rw [List.cons_append, choose, choose, List.any_cons, ih]
    cases (key.likeness.versus .eq key.datum (.ofValue given)).isTrue <;> rfl

namespace Metadata

variable {metadata : Metadata}

/-- How keys of the model's table are compared. -/
def likeness (metadata : Metadata) : Likeness := { affinity := .ofKind metadata.keyKind }

/-- Whether the key of a record is what a row has as its key. -/
def hasKey (metadata : Metadata) (datum : Datum) (record : Record) : Bool :=
  (metadata.likeness.versus .eq datum (.ofValue (metadata.keyIn record))).isTrue

/-- The key of a record that is to be updated is a value of the key's kind. -/
theorem kind_of_updateKey {record : Record} {key : Value} (given : Statement.updateKey metadata record = .ok key) :
    key.kind? = some metadata.keyKind := by
  simp only [Statement.updateKey, Outcome.bind_eq_ok, Outcome.guarded_eq_ok, Outcome.pure_eq_ok, keyOf, Value.ofJson] at given
  obtain ⟨_, bound, present, rfl⟩ := given
  split at bound
  next value read =>
    cases bound
    rcases Value.suits_of_ofJson read with rfl | kind
    · exact absurd rfl present
    · exact kind
  · cases bound

/-- A row that has been stored with a value as its key has the key of those records whose key is that value. -/
theorem eq_of_hasKey (described : metadata.Described) {record : Record} {value : Value}
    (given : Statement.updateKey metadata record = .ok (metadata.keyIn record)) (kind : value.kind? = some metadata.keyKind)
    (has : metadata.hasKey (.ofValue value) record = true) : metadata.keyIn record = value := by
  obtain ⟨_, _, _, _, kinds⟩ := described.key
  have same := kind_of_updateKey given
  have order := Likeness.order_of_versus has
  rw [likeness] at order
  generalize metadata.keyIn record = key at same order ⊢
  rcases kinds with int | text
  · rw [int] at same kind order
    cases key with
    | int n =>
      cases value with
      | int m => rw [Likeness.int_of_order order]
      | _ => cases kind
    | _ => cases same
  · rw [text] at same kind order
    cases key with
    | text s =>
      cases value with
      | text t => rw [Likeness.text_of_order order]
      | _ => cases kind
    | _ => cases same

/-- What the update of a batch of records does to rows, by their keys. -/
def change (metadata : Metadata) (records : List Record) : Table.KeyedChange where
  chosen datum := records.any (metadata.hasKey datum)
  data datum := metadata.dataColumns.map fun field =>
    (field.column, Table.choose ⟨datum, metadata.likeness⟩ (Statement.armsOf metadata records field))

theorem among_keys (records : List Record) (datum : Datum) :
    (metadata.likeness.among datum ((records.map metadata.keyIn).map .ofValue)).isTrue =
      (metadata.change records).chosen datum := by
  rw [Likeness.among_isTrue, List.map_map, List.any_map]
  rfl

/-- Records at the front of a batch come before the others. -/
theorem change_append (records others : List Record) :
    metadata.change (records ++ others) = (metadata.change records).either (metadata.change others) := by
  have arms (datum : Datum) (field : Field) :
      (Statement.armsOf metadata records field).any (fun arm => (metadata.likeness.versus .eq datum (.ofValue arm.1)).isTrue) =
        records.any (metadata.hasKey datum) := by
    rw [Statement.armsOf, List.any_map]
    rfl
  rw [change, Table.KeyedChange.either]
  congr 1
  · funext datum
    exact List.any_append
  · funext datum
    simp only [change, Statement.armsOf, List.map_append, Table.choose_append] at arms ⊢
    simp only [arms]
    by_cases named : records.any (metadata.hasKey datum) = true <;> simp [named]

end Metadata

namespace Table

/-- The table of a model: its columns are those that the model's table is made with, and its rows keep its rules. -/
structure Stores (table : Table) (metadata : Metadata) : Prop where
  columns : table.columns = metadata.columns.map (Statement.columnDef metadata)
  unalike : table.columns.Pairwise fun column other => Name.alike column.name other.name = false
  kept : table.Kept

theorem find?_alike {columns : List ColumnDef}
    (unalike : columns.Pairwise fun column other => Name.alike column.name other.name = false) {column : ColumnDef}
    (member : column ∈ columns) : columns.find? (fun other => Name.alike other.name column.name) = some column := by
  induction columns with
  | nil => cases member
  | cons first rest ih =>
    obtain ⟨different, others⟩ := List.pairwise_cons.mp unalike
    rcases List.mem_cons.mp member with rfl | later
    · simp [Name.alike_refl]
    · rw [List.find?_cons_of_neg (by simp [different column later])]
      exact ih others later

namespace Stores

variable {table : Table} {metadata : Metadata} (stores : table.Stores metadata) (described : metadata.Described)
include stores

theorem meant?_column {field : Field} (member : field ∈ metadata.columns) :
    table.meant? field.column = some (Statement.columnDef metadata field) := by
  have listed : Statement.columnDef metadata field ∈ table.columns := by
    rw [stores.columns]
    exact List.mem_map_of_mem member
  have found : table.column? field.column = some (Statement.columnDef metadata field) :=
    find?_alike stores.unalike listed
  rw [meant?, found]

/-- The table knows the model's columns under their own names. -/
theorem ownNames_columns (missing : String → Fault) {names : List String}
    (known : ∀ name ∈ names, ∃ field ∈ metadata.columns, field.column = name) :
    table.ownNames missing names = .ok names := by
  rw [ownNames, Outcome.mapM_eq_ok, List.forall₂_same]
  intro name member
  obtain ⟨field, inside, rfl⟩ := known name member
  rw [stores.meant?_column inside]
  rfl

theorem ownNames_data (missing : String → Fault) :
    table.ownNames missing (metadata.dataColumns.map Field.column) = .ok (metadata.dataColumns.map Field.column) := by
  apply stores.ownNames_columns missing
  intro name member
  obtain ⟨field, data, same⟩ := List.mem_map.mp member
  exact ⟨field, List.mem_of_mem_filter data, same⟩

/-- A row can lack a value only in a column besides the key that needs one, and has NULL there. -/
theorem lacking?_eq_some {row : Tuple} {column : ColumnDef} (lacks : table.lacking? row = some column) :
    ∃ field ∈ metadata.dataColumns, column = Statement.columnDef metadata field ∧
      (Statement.columnDef metadata field).required = true ∧ row.get field.column = .null := by
  have listed := List.mem_of_find?_eq_some lacks
  rw [stores.columns] at listed
  obtain ⟨field, inside, rfl⟩ := List.mem_map.mp listed
  have needed := List.find?_some lacks
  simp only [Bool.and_eq_true] at needed
  obtain ⟨⟨required, besides⟩, missing⟩ := needed
  exact ⟨field, List.mem_filter.mpr ⟨inside, besides⟩, rfl, required, Datum.eq_null_of_isNull missing⟩

theorem get_ne_null {row : Tuple} (filled : table.lacking? row = none) {field : Field} (data : field ∈ metadata.dataColumns)
    (required : (Statement.columnDef metadata field).required = true) : row.get field.column ≠ .null := by
  intro null
  obtain ⟨inside, besides⟩ := List.mem_filter.mp data
  have listed : Statement.columnDef metadata field ∈ table.columns := by
    rw [stores.columns]
    exact List.mem_map_of_mem inside
  refine List.find?_eq_none.mp filled _ listed ?_
  have missing : (row.get (Statement.columnDef metadata field).name).isNull = true := congrArg Datum.isNull null
  simp only [Bool.and_eq_true]
  exact ⟨⟨required, besides⟩, missing⟩

include described

theorem key? : ∃ key, table.key? = some key ∧ key.name = metadata.keyColumn ∧ key.kind = metadata.keyKind := by
  obtain ⟨key, found, column, kind, _⟩ := described.key
  refine ⟨Statement.columnDef metadata key, ?_, column, kind⟩
  rw [Table.key?, stores.columns, List.find?_map]
  exact congrArg (Option.map (Statement.columnDef metadata)) found

theorem key_unique : metadata.keyColumn ∈ table.uniqueNames := by
  obtain ⟨key, found, column, _⟩ := stores.key? described
  simp [uniqueNames, found, column]

theorem unique_eq {name : String} (unique : name ∈ table.uniqueNames) : name = "" ∨ name = metadata.keyColumn := by
  obtain ⟨key, found, column, _⟩ := stores.key? described
  simp only [uniqueNames, rowKey, found, Option.map_some, Option.toList_some, List.mem_cons, List.not_mem_nil,
    or_false, column] at unique
  rcases unique with rfl | rfl
  · cases number : isNumber key <;> simp [Option.filter, number, numberColumn, column]
  · exact .inr rfl

/-- A column that can be set has a name, unlike the column of row numbers, and is not the key. -/
theorem data_not_unique {field : Field} (member : field ∈ metadata.dataColumns) : field.column ∉ table.uniqueNames := by
  intro unique
  obtain ⟨key, found, column, _⟩ := described.key
  obtain ⟨inside, data⟩ := List.mem_filter.mp member
  rcases stores.unique_eq described unique with unnamed | named
  · have checked := described.checked field inside
    rw [unnamed] at checked
    cases checked
  · rw [← column] at named
    have twin := described.eq_of_column (Metadata.mem_fields_of_columns inside)
      (Metadata.mem_fields_of_columns (List.mem_of_find?_eq_some found)) named
    have isKey := List.find?_some found
    simp [twin, isKey] at data

theorem spares (records : List Record) : (metadata.change records).Spares table := by
  intro datum name unique listed
  rw [Metadata.change, List.map_map] at listed
  obtain ⟨field, member, rfl⟩ := List.mem_map.mp listed
  exact stores.data_not_unique described member unique

theorem env_key (row : Tuple) :
    table.env row (.ofName metadata.keyColumn) = ⟨row.get metadata.keyColumn, metadata.likeness⟩ := by
  obtain ⟨key, found, column, kind, _⟩ := described.key
  have meant := stores.meant?_column (List.mem_of_find?_eq_some found)
  rw [column] at meant
  have name : (Statement.columnDef metadata key).name = metadata.keyColumn := column
  have kind_ : (Statement.columnDef metadata key).kind = metadata.keyKind := kind
  simp only [env, Table.column, ColumnRef.ofName, meant, name, kind_]
  rfl

/-- The update of a batch gives every row that has the key of a record that record's values. -/
theorem updateByKey_eq (records : List Record) :
    table.updateByKey metadata.keyColumn
        (metadata.dataColumns.map fun field => (field.column, Statement.armsOf metadata records field))
        (records.map metadata.keyIn) =
      table.updateKeyed metadata.keyColumn (metadata.change records) := by
  have names : table.ownNames noColumn ((metadata.dataColumns.map fun field =>
      (field.column, Statement.armsOf metadata records field)).map Prod.fst) =
        .ok (metadata.dataColumns.map Field.column) := by
    rw [List.map_map]
    exact stores.ownNames_data noColumn
  have data (datum : Datum) : (metadata.dataColumns.map Field.column).zip
      ((metadata.dataColumns.map fun field => (field.column, Statement.armsOf metadata records field)).map
        fun arms => choose ⟨datum, metadata.likeness⟩ arms.2) = (metadata.change records).data datum := by
    rw [List.map_map, List.zip_map']
    rfl
  simp only [updateByKey, names, stores.env_key described, Metadata.among_keys, bind, Except.bind, data]
  rfl

end Stores

end Table

namespace Tables

theorem find_eq_ok {tables : Tables} {table : TableRef} {found : Table} :
    tables.find table = .ok found ↔ knows table = true ∧ tables.named? table.name = some found := by
  rw [find]
  cases knows table <;> cases tables.named? table.name <;> simp

theorem named?_replace {tables : Tables} {name : String} {found changed : Table} (named : tables.named? name = some found)
    (same : changed.name = found.name) : Tables.named? (Database.replace tables changed) name = some changed := by
  have alike : Name.alike changed.name name = true := by
    have holds := List.find?_some named
    rw [same]
    exact holds
  unfold named? at named ⊢
  rw [Database.replace]
  induction tables with
  | nil => cases named
  | cons first rest ih =>
    rw [List.map_cons, Name.alike_congr alike first.name]
    by_cases here : Name.alike first.name name = true
    · simp [here, alike]
    · have later : rest.find? (fun table => Name.alike table.name name) = some found := by simpa [here] using named
      simpa [here] using ih later

/-- A table that has been replaced by one of the same name is found again. -/
theorem find_replace {tables : Tables} {table : TableRef} {found changed : Table} (known : tables.find table = .ok found)
    (same : changed.name = found.name) : Tables.find (Database.replace tables changed) table = .ok changed := by
  obtain ⟨known, named⟩ := find_eq_ok.mp known
  exact find_eq_ok.mpr ⟨known, named?_replace named same⟩

theorem replace_replace (tables : Tables) {first later : Table} (same : later.name = first.name) :
    Database.replace (Database.replace tables first) later = Database.replace tables later := by
  simp only [Database.replace, List.map_map]
  refine List.map_congr_left fun table _ => ?_
  by_cases alike : Name.alike table.name first.name = true <;> simp [alike, same, Name.alike_refl]

end Tables

end RecordMapper
