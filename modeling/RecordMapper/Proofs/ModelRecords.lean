import Mathlib.Data.List.Nodup
import RecordMapper.Proofs.Outcomes
import RecordMapper.Model

/-! Records and the metadata of a model: what a record holds after a name has been given a value, which values columns
bind, and that a model's fields are those of its default object. -/

namespace RecordMapper

theorem mem_of_firstNamed? {name : String} {entries : List (String × α)} {value : α}
    (found : firstNamed? name entries = some value) : (name, value) ∈ entries := by
  induction entries with
  | nil => cases found
  | cons entry rest ih =>
    obtain ⟨key, old⟩ := entry
    rw [firstNamed?] at found
    split at found
    next same =>
      cases found
      cases same
      exact List.mem_cons_self
    next => exact List.mem_cons_of_mem _ (ih found)

theorem firstNamed?_map (change : α → β) (name : String) (entries : List (String × α)) :
    firstNamed? name (entries.map (Prod.map id change)) = (firstNamed? name entries).map change := by
  induction entries with
  | nil => rfl
  | cons entry rest ih =>
    obtain ⟨key, value⟩ := entry
    rw [List.map_cons, Prod.map_apply, firstNamed?, firstNamed?, ih, id]
    split <;> rfl

theorem firstNamed?_of_mem {name : String} {entries : List (String × α)} (listed : name ∈ entries.map Prod.fst) :
    ∃ value, firstNamed? name entries = some value := by
  induction entries with
  | nil => cases listed
  | cons entry rest ih =>
    obtain ⟨key, value⟩ := entry
    rw [firstNamed?]
    split
    · exact ⟨value, rfl⟩
    next other =>
      rcases List.mem_cons.mp listed with same | later
      · exact absurd same.symm other
      · exact ih later

namespace Record

theorem value?_put (name other : String) (value : Json) (record : Record) :
    (record.put name value).value? other = if other = name then some value else record.value? other := by
  induction record with
  | nil =>
    by_cases same : other = name
    · simp [put, value?, same]
    · simp [put, value?, same, Ne.symm same]
  | cons entry rest ih =>
    obtain ⟨key, old⟩ := entry
    by_cases found : key = name
    · subst found
      by_cases same : other = key
      · simp [put, value?, same]
      · simp [put, value?, same, Ne.symm same]
    · by_cases here : key = other
      · subst here
        simp [put, value?, found]
      · simp [put, value?, found, here, ih]

theorem value?_eq_firstNamed? (name : String) (record : Record) : record.value? name = firstNamed? name record := by
  induction record with
  | nil => rfl
  | cons entry rest ih => rw [value?, firstNamed?, ih]

theorem names_put {name : String} (value : Json) {record : Record} (known : name ∈ record.names) :
    (record.put name value).names = record.names := by
  induction record with
  | nil => cases known
  | cons entry rest ih =>
    obtain ⟨key, old⟩ := entry
    by_cases found : key = name
    · simp [put, names, found]
    · have later : name ∈ Record.names rest := by simpa [names, Ne.symm found] using known
      simpa [put, names, found] using ih later

end Record

/-- The values that a column of a kind binds. -/
def Value.Suits (kind : Kind) (value : Value) : Prop := value = .null ∨ value.kind? = some kind

namespace Value

theorem suits_of_ofJson {kind : Kind} {json : Json} {value : Value} (bound : ofJson? kind json = some value) :
    value.Suits kind := by
  unfold ofJson? at bound
  split at bound
  case h_7 items =>
    obtain ⟨octets, _, rfl⟩ := Option.map_eq_some_iff.mp bound
    exact .inr rfl
  case h_8 => cases bound
  case h_1 =>
    cases bound
    exact .inl rfl
  all_goals
    cases bound
    exact .inr rfl

end Value

namespace Model

/-- The field that describes a name with its default value. Without a kind it counts as text, which only happens to what
takes no part in statements. -/
def fieldOf (model : Model α) (column : String) (default : Json) : Field where
  column
  kind := ((firstNamed? column model.kinds).or (Kind.infer default)).getD .text
  ignored := model.ignored.contains column
  isKey := column = model.key
  capacity := firstNamed? column model.capacities

/-- A field that can be described: if it takes part in statements, its name has been checked and its kind is known. -/
def Describable (model : Model α) (column : String) (default : Json) : Prop :=
  column ∉ model.ignored →
    Name.check column = .ok () ∧ ((firstNamed? column model.kinds).or (Kind.infer default)).isSome

theorem describe_eq_ok {model : Model α} {column : String} {default : Json} {field : Field} :
    model.describe column default = .ok field ↔
      model.Describable column default ∧ field = model.fieldOf column default := by
  unfold describe Describable fieldOf
  by_cases ignored : column ∈ model.ignored
  · cases known : (firstNamed? column model.kinds).or (Kind.infer default) <;> simp [ignored, eq_comm]
  · cases checked : Name.check column with
    | error fault => simp [ignored]
    | ok _ => cases known : (firstNamed? column model.kinds).or (Kind.infer default) <;> simp [ignored, eq_comm]

theorem describeAll_eq_ok {model : Model α} {record : Record} {fields : List Field} :
    model.describeAll record = .ok fields ↔
      (∀ entry ∈ record, model.Describable entry.1 entry.2) ∧
        fields = record.map fun entry => model.fieldOf entry.1 entry.2 := by
  induction record generalizing fields with
  | nil => simp [describeAll, eq_comm]
  | cons entry rest ih =>
    obtain ⟨column, default⟩ := entry
    simp only [describeAll, Outcome.bind_eq_ok, Outcome.pure_eq_ok, describe_eq_ok, ih, List.forall_mem_cons, List.map_cons]
    constructor
    · rintro ⟨_, ⟨first, rfl⟩, _, ⟨others, rfl⟩, rfl⟩
      exact ⟨⟨first, others⟩, rfl⟩
    · rintro ⟨⟨first, others⟩, rfl⟩
      exact ⟨_, ⟨first, rfl⟩, _, ⟨others, rfl⟩, rfl⟩

/-- A field that takes part in statements has a checked name. -/
theorem describeAll_checked {model : Model α} {record : Record} {fields : List Field}
    (described : model.describeAll record = .ok fields) :
    ∀ field ∈ fields, field.ignored = false → Name.check field.column = .ok () := by
  obtain ⟨describable, rfl⟩ := describeAll_eq_ok.mp described
  intro field member stored
  obtain ⟨entry, inside, rfl⟩ := List.mem_map.mp member
  exact (describable entry inside (by simpa [fieldOf] using stored)).1

theorem describeAll_isKey {model : Model α} {record : Record} {fields : List Field}
    (described : model.describeAll record = .ok fields) :
    ∀ field ∈ fields, field.isKey = true ↔ field.column = model.key := by
  obtain ⟨_, rfl⟩ := describeAll_eq_ok.mp described
  intro field member
  obtain ⟨entry, _, rfl⟩ := List.mem_map.mp member
  exact decide_eq_true_iff

theorem describeAll_columns {model : Model α} {record : Record} {fields : List Field}
    (described : model.describeAll record = .ok fields) : fields.map Field.column = record.names := by
  obtain ⟨_, rfl⟩ := describeAll_eq_ok.mp described
  simp [fieldOf, Record.names, Function.comp_def]

theorem checkedKey_eq_ok {model : Model α} {fields : List Field} {key : Field} :
    model.checkedKey fields = .ok key ↔
      fields.find? Field.isKey = some key ∧ key.ignored = false ∧ (key.kind = .int ∨ key.kind = .text) := by
  unfold checkedKey
  cases found : fields.find? Field.isKey with
  | none => simp
  | some field =>
    simp only [Option.some.injEq]
    split_ifs with ignored fits
    · refine iff_of_false nofun ?_
      rintro ⟨rfl, stored, _⟩
      exact absurd (ignored.symm.trans stored) nofun
    · constructor
      · rintro ⟨⟩
        exact ⟨rfl, by simpa using ignored, fits⟩
      · rintro ⟨rfl, _⟩
        rfl
    · refine iff_of_false nofun ?_
      rintro ⟨rfl, _, other⟩
      exact fits other

/-- What it takes to describe a model, and the description. -/
theorem metadata_eq_ok_iff {model : Model α} {metadata : Metadata} :
    model.metadata = .ok metadata ↔
      Name.check model.table = .ok () ∧ ∃ blank fields key object, model.encode model.blank = .ok (.fields blank) ∧
        model.describeAll blank = .ok fields ∧ model.checkedKey fields = .ok key ∧
        model.decode (.fields (Record.put key.column (widestKey key.kind) blank)) = .ok object ∧
        metadata = ⟨model.name, model.table, fields, key.column, key.kind, model.mirrored, blank⟩ := by
  unfold Model.metadata
  constructor
  · intro described
    split at described
    · cases described
    next checked =>
      split at described
      · cases described
      next blank encoded =>
        simp only [Outcome.bind_eq_ok] at described
        obtain ⟨fields, listed, key, fits, described⟩ := described
        split at described
        · cases described
        next object decoded =>
          cases described
          exact ⟨checked, blank, fields, key, object, encoded, listed, fits, decoded, rfl⟩
      · cases described
  · rintro ⟨checked, blank, fields, key, object, encoded, listed, fits, decoded, rfl⟩
    simp only [checked, encoded, Outcome.bind_eq_ok]
    exact ⟨fields, listed, key, fits, by simp only [decoded]⟩

theorem metadata_eq_ok {model : Model α} {metadata : Metadata} (described : model.metadata = .ok metadata) :
    metadata.typeName = model.name ∧ metadata.table = model.table ∧
      model.encode model.blank = .ok (.fields metadata.blank) ∧
      model.describeAll metadata.blank = .ok metadata.fields ∧
      ∃ key, model.checkedKey metadata.fields = .ok key ∧ metadata.keyColumn = key.column ∧ metadata.keyKind = key.kind := by
  obtain ⟨_, blank, fields, key, _, encoded, listed, fits, _, rfl⟩ := metadata_eq_ok_iff.mp described
  exact ⟨rfl, rfl, encoded, listed, key, fits, rfl, rfl⟩

/-- The fields that are keys are those of the key's column. -/
theorem isKey_iff {model : Model α} {metadata : Metadata} (described : model.metadata = .ok metadata) :
    ∀ field ∈ metadata.fields, field.isKey = true ↔ field.column = metadata.keyColumn := by
  obtain ⟨_, _, _, listed, key, checked, column, _⟩ := metadata_eq_ok described
  have found := (checkedKey_eq_ok.mp checked).1
  have named := (describeAll_isKey listed key (List.mem_of_find?_eq_some found)).mp (List.find?_some found)
  rw [column, named]
  exact describeAll_isKey listed

theorem keyKind_fits {model : Model α} {metadata : Metadata} (described : model.metadata = .ok metadata) :
    metadata.keyKind = .int ∨ metadata.keyKind = .text := by
  obtain ⟨_, _, _, _, key, checked, _, kind⟩ := metadata_eq_ok described
  exact kind ▸ (checkedKey_eq_ok.mp checked).2.2

end Model

namespace Metadata

theorem mem_columns {metadata : Metadata} {field : Field} :
    field ∈ metadata.columns ↔ field ∈ metadata.fields ∧ field.ignored = false := by
  simp [columns]

/-- Every name of the default object is the name of one field, the names of columns are checked, and one column is the
key. -/
structure Described (metadata : Metadata) : Prop where
  columns : metadata.fields.map Field.column = metadata.blank.names
  distinct : metadata.blank.names.Nodup
  checked : ∀ field ∈ metadata.columns, Name.check field.column = .ok ()
  key : ∃ key, metadata.columns.find? Field.isKey = some key ∧ key.column = metadata.keyColumn ∧
    key.kind = metadata.keyKind ∧ (metadata.keyKind = .int ∨ metadata.keyKind = .text)

theorem Described.of_model {model : Model α} {metadata : Metadata} (described : model.metadata = .ok metadata)
    (distinct : metadata.blank.names.Nodup) : metadata.Described := by
  obtain ⟨_, _, _, listed, key, checked, column, kind⟩ := Model.metadata_eq_ok described
  obtain ⟨found, taken, fits⟩ := Model.checkedKey_eq_ok.mp checked
  refine ⟨Model.describeAll_columns listed, distinct, fun field member => ?_, key, ?_, column.symm, kind.symm, kind ▸ fits⟩
  · obtain ⟨inside, stored⟩ := mem_columns.mp member
    exact Model.describeAll_checked listed field inside stored
  · obtain ⟨isKey, before, after, same, none_⟩ := List.find?_eq_some_iff_append.mp found
    rw [Metadata.columns, List.find?_filter, List.find?_eq_some_iff_append]
    refine ⟨by simp [taken, isKey], before, after, same, fun field member => ?_⟩
    have other : field.isKey = false := by simpa using none_ field member
    simp [other]

theorem Described.nodup {metadata : Metadata} (described : metadata.Described) :
    (metadata.fields.map Field.column).Nodup := by
  rw [described.columns]
  exact described.distinct

theorem Described.nodup_columns {metadata : Metadata} (described : metadata.Described) :
    (metadata.columns.map Field.column).Nodup :=
  described.nodup.sublist (List.filter_sublist.map _)

theorem Described.eq_of_column {metadata : Metadata} (described : metadata.Described) {field other : Field}
    (member : field ∈ metadata.fields) (inside : other ∈ metadata.fields) (same : field.column = other.column) :
    field = other :=
  List.inj_on_of_nodup_map described.nodup member inside same

theorem Described.column_mem {metadata : Metadata} (described : metadata.Described) {field : Field}
    (member : field ∈ metadata.fields) : field.column ∈ metadata.blank.names := by
  rw [← described.columns]
  exact List.mem_map_of_mem member

theorem mem_fields_of_columns {metadata : Metadata} {field : Field} (member : field ∈ metadata.columns) :
    field ∈ metadata.fields := (mem_columns.mp member).1

theorem Described.field?_column {metadata : Metadata} (described : metadata.Described) {field : Field}
    (member : field ∈ metadata.columns) : metadata.field? field.column = some field := by
  have found : (metadata.field? field.column).isSome := by
    rw [field?, List.find?_isSome]
    exact ⟨field, member, by simp⟩
  obtain ⟨other, same⟩ := Option.isSome_iff_exists.mp found
  have column : other.column = field.column := by simpa using List.find?_some same
  rw [same, described.eq_of_column (mem_fields_of_columns (List.mem_of_find?_eq_some same)) (mem_fields_of_columns member)
    column]

end Metadata

end RecordMapper
