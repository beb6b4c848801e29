import RecordMapper.Proofs.StoredObjects

/-! Which models can be described. A model is sound if its table and its key make sense together with the fields of its default
object, and the description of a sound model lists these fields with exactly one key among them. -/

namespace RecordMapper

/-- The first entry of a name is one that no other of that name stands before. -/
theorem firstNamed?_eq_some_iff {name : String} {entries : List (String × α)} {value : α} :
    firstNamed? name entries = some value ↔
      ∃ before after, entries = before ++ (name, value) :: after ∧ name ∉ before.map Prod.fst := by
  induction entries with
  | nil => simp [firstNamed?]
  | cons entry rest ih =>
    obtain ⟨key, first⟩ := entry
    rw [firstNamed?]
    by_cases same : key = name
    · subst same
      rw [if_pos rfl, Option.some.injEq]
      constructor
      · rintro rfl
        exact ⟨[], rest, rfl, List.not_mem_nil⟩
      · rintro ⟨before, after, split, absent⟩
        cases before with
        | nil => exact congrArg Prod.snd (List.cons.inj split).1
        | cons other before =>
          cases (List.cons.inj split).1
          exact absurd List.mem_cons_self absent
    · rw [if_neg same, ih]
      constructor
      · rintro ⟨before, after, rfl, absent⟩
        refine ⟨(key, first) :: before, after, rfl, ?_⟩
        simpa [Ne.symm same] using absent
      · rintro ⟨before, after, split, absent⟩
        cases before with
        | nil => exact absurd (congrArg Prod.fst (List.cons.inj split).1) same
        | cons other before =>
          obtain ⟨rfl, rfl⟩ := List.cons.inj split
          exact ⟨before, after, rfl, fun member => absent (List.mem_cons_of_mem _ member)⟩

theorem firstNamed?_eq_none_iff {name : String} {entries : List (String × α)} :
    firstNamed? name entries = none ↔ name ∉ entries.map Prod.fst := by
  refine ⟨fun nothing listed => ?_, fun absent => ?_⟩
  · obtain ⟨value, found⟩ := firstNamed?_of_mem listed
    cases nothing.symm.trans found
  · cases found : firstNamed? name entries with
    | none => rfl
    | some value => exact absurd (List.mem_map_of_mem (mem_of_firstNamed? found)) absent

/-- Where no name stands twice, each entry is the first of its name. -/
theorem firstNamed?_of_nodup {name : String} {entries : List (String × α)} {value : α}
    (distinct : (entries.map Prod.fst).Nodup) (member : (name, value) ∈ entries) :
    firstNamed? name entries = some value := by
  obtain ⟨before, after, rfl⟩ := List.append_of_mem member
  refine firstNamed?_eq_some_iff.mpr ⟨before, after, rfl, fun earlier => ?_⟩
  rw [List.map_append, List.map_cons] at distinct
  exact List.disjoint_of_nodup_append distinct earlier List.mem_cons_self

namespace Model

variable {model : Model α} {column : String} {default : Json} {blank : Record}

/-- The kind of a field: the first that is declared for its name, or else what its default value suggests. -/
inductive HasKind (model : Model α) (column : String) (default : Json) : Kind → Prop where
  | declared {kind before after} (given : model.kinds = before ++ (column, kind) :: after)
      (first : column ∉ before.map Prod.fst) : HasKind model column default kind
  | inferred {kind} (undeclared : column ∉ model.kinds.map Prod.fst) (suggested : Kind.infer default = some kind) :
      HasKind model column default kind

theorem hasKind_iff {kind : Kind} :
    model.HasKind column default kind ↔ (firstNamed? column model.kinds).or (Kind.infer default) = some kind := by
  constructor
  · rintro (⟨given, first⟩ | ⟨undeclared, suggested⟩)
    · rw [firstNamed?_eq_some_iff.mpr ⟨_, _, given, first⟩, Option.some_or]
    · rw [firstNamed?_eq_none_iff.mpr undeclared, Option.none_or, suggested]
  · intro known
    cases declared : firstNamed? column model.kinds with
    | none =>
      rw [declared, Option.none_or] at known
      exact .inferred (firstNamed?_eq_none_iff.mp declared) known
    | some first =>
      rw [declared, Option.some_or] at known
      cases known
      obtain ⟨before, after, given, absent⟩ := firstNamed?_eq_some_iff.mp declared
      exact .declared given absent

/-- The greatest integer of 64 bits, or its numeral: what the widest generated key is in a column of a kind. -/
inductive Widest : Kind → Json → Prop where
  | int : Widest .int (.int 9223372036854775807)
  | text : Widest .text (.text "9223372036854775807")

theorem widest_iff {kind : Kind} {json : Json} :
    Widest kind json ↔ (kind = .int ∨ kind = .text) ∧ json = widestKey kind := by
  constructor
  · rintro (_ | _)
    · exact ⟨.inl rfl, rfl⟩
    · exact ⟨.inr rfl, rfl⟩
  · rintro ⟨rfl | rfl, rfl⟩
    · exact .int
    · exact .text

/-- A model that a table can be described by, with the fields of its default object. -/
structure Sound (model : Model α) (blank : Record) : Prop where
  table : Name.isIdentifier model.table.toList
  object : model.encode model.blank = .ok (.fields blank)
  names : ∀ column ∈ blank.names, column ∉ model.ignored → Name.isIdentifier column.toList
  kinds : ∀ entry ∈ blank, entry.1 ∉ model.ignored → ∃ kind, model.HasKind entry.1 entry.2 kind
  stored : model.key ∉ model.ignored
  /-- The key is one of the fields, and the default object can take the widest key. -/
  key : ∃ default kind widest, blank.value? model.key = some default ∧ model.HasKind model.key default kind ∧
    Widest kind widest ∧ ∃ object, model.decode (.fields (blank.put model.key widest)) = .ok object

theorem describable_iff :
    model.Describable column default ↔
      (column ∉ model.ignored → Name.isIdentifier column.toList ∧ ∃ kind, model.HasKind column default kind) := by
  simp only [Describable, Name.check_eq_ok, hasKind_iff, Option.isSome_iff_exists]

/-- The key among described fields is the field of the key's name. -/
theorem find?_isKey (model : Model α) (record : Record) :
    (record.map fun entry => model.fieldOf entry.1 entry.2).find? Field.isKey =
      (record.value? model.key).map (model.fieldOf model.key) := by
  induction record with
  | nil => rfl
  | cons entry rest ih =>
    obtain ⟨name, value⟩ := entry
    rw [List.map_cons, List.find?_cons, ih, Record.value?]
    by_cases same : name = model.key
    · subst same
      simp [fieldOf]
    · simp [fieldOf, same]

theorem checkedKey_fieldOf {key : Field} :
    model.checkedKey (blank.map fun entry => model.fieldOf entry.1 entry.2) = .ok key ↔
      model.key ∉ model.ignored ∧
        ∃ default, blank.value? model.key = some default ∧ key = model.fieldOf model.key default ∧
          (key.kind = .int ∨ key.kind = .text) := by
  rw [checkedKey_eq_ok, find?_isKey]
  constructor
  · rintro ⟨found, stored, fits⟩
    obtain ⟨default, value, rfl⟩ := Option.map_eq_some_iff.mp found
    exact ⟨by simpa [fieldOf] using stored, default, value, rfl, fits⟩
  · rintro ⟨stored, default, value, rfl, fits⟩
    exact ⟨by rw [value, Option.map_some], by simpa [fieldOf] using stored, fits⟩

theorem kind_fieldOf {kind : Kind} (known : model.HasKind column default kind) :
    (model.fieldOf column default).kind = kind := by
  rw [fieldOf, hasKind_iff.mp known, Option.getD_some]

theorem sound_of_described {metadata : Metadata} (described : model.metadata = .ok metadata) :
    model.Sound metadata.blank := by
  obtain ⟨named, blank, _, key, object, encoded, listed, fits, decoded, rfl⟩ := metadata_eq_ok_iff.mp described
  obtain ⟨describable, rfl⟩ := describeAll_eq_ok.mp listed
  obtain ⟨stored, default, value, rfl, fits⟩ := checkedKey_fieldOf.mp fits
  have fields (entry : String × Json) (member : entry ∈ blank) (taken : entry.1 ∉ model.ignored) :=
    describable_iff.mp (describable entry member) taken
  have listed := mem_of_firstNamed? (Record.value?_eq_firstNamed? model.key blank ▸ value)
  obtain ⟨kind, known⟩ := (fields _ listed stored).2
  have same := kind_fieldOf known
  refine ⟨Name.check_eq_ok.mp named, encoded, fun column member taken => ?_, fun entry member taken => ?_, stored,
    default, kind, widestKey kind, value, known, widest_iff.mpr ⟨same ▸ fits, rfl⟩, object, same ▸ decoded⟩
  · obtain ⟨entry, inside, rfl⟩ := List.mem_map.mp member
    exact (fields entry inside taken).1
  · exact (fields entry member taken).2

theorem described_of_sound (sound : model.Sound blank) : ∃ metadata, model.metadata = .ok metadata := by
  obtain ⟨default, kind, widest, value, known, wide, object, decoded⟩ := sound.key
  obtain ⟨fits, rfl⟩ := widest_iff.mp wide
  have same := kind_fieldOf known
  have describable (entry : String × Json) (member : entry ∈ blank) : model.Describable entry.1 entry.2 :=
    describable_iff.mpr fun taken =>
      ⟨sound.names entry.1 (List.mem_map_of_mem member) taken, sound.kinds entry member taken⟩
  have key := checkedKey_fieldOf.mpr ⟨sound.stored, default, value, rfl, same.symm ▸ fits⟩
  exact ⟨_, metadata_eq_ok_iff.mpr ⟨Name.check_eq_ok.mpr sound.table, blank, _, _, object, sound.object,
    describeAll_eq_ok.mpr ⟨describable, rfl⟩, key, same.symm ▸ decoded, rfl⟩⟩

theorem ignored_iff {metadata : Metadata} (described : model.metadata = .ok metadata) :
    ∀ field ∈ metadata.fields, field.ignored = true ↔ field.column ∈ model.ignored := by
  obtain ⟨_, _, _, listed, _⟩ := metadata_eq_ok described
  obtain ⟨_, same⟩ := describeAll_eq_ok.mp listed
  intro field member
  rw [same] at member
  obtain ⟨entry, _, rfl⟩ := List.mem_map.mp member
  exact List.contains_iff_mem

end Model

namespace Metadata

/-- Described fields are found by their names, if they take part in statements. -/
theorem Described.field?_eq_some {metadata : Metadata} (described : metadata.Described) {name : String} {field : Field} :
    metadata.field? name = some field ↔ field ∈ metadata.columns ∧ field.column = name := by
  constructor
  · intro found
    exact ⟨List.mem_of_find?_eq_some found, by simpa using List.find?_some found⟩
  · rintro ⟨member, rfl⟩
    exact described.field?_column member

/-- No two fields are the key. -/
theorem Described.filter_isKey {metadata : Metadata} (described : metadata.Described)
    (keys : ∀ field ∈ metadata.fields, field.isKey = true ↔ field.column = metadata.keyColumn) {key : Field}
    (member : key ∈ metadata.fields) (column : key.column = metadata.keyColumn) :
    metadata.fields.filter Field.isKey = [key] := by
  have distinct : metadata.fields.Nodup := described.nodup.of_map
  have same : (metadata.fields.filter Field.isKey).Perm [key] := by
    refine (List.perm_ext_iff_of_nodup (distinct.filter _) (List.nodup_singleton key)).mpr fun field => ?_
    rw [List.mem_filter, List.mem_singleton]
    constructor
    · rintro ⟨inside, isKey⟩
      exact described.eq_of_column inside member (((keys field inside).mp isKey).trans column.symm)
    · rintro rfl
      exact ⟨member, (keys field member).mpr column⟩
  exact List.perm_singleton.mp same

end Metadata

namespace Model
open Metadata

/-- A model is described exactly if it is sound. The description of an object whose names are distinct lists its fields once
each, in order, has one key among them, which is a column, and finds a field by its name exactly if it takes part in
statements. -/
theorem described_iff_sound (model : Model α) :
    ((∃ metadata, model.metadata = .ok metadata) ↔ ∃ blank, model.Sound blank) ∧
    ∀ metadata, model.metadata = .ok metadata →
      model.encode model.blank = .ok (.fields metadata.blank) ∧
      metadata.fields.map Field.column = metadata.blank.names ∧
      (metadata.blank.names.Nodup →
        (∃ key ∈ metadata.columns, metadata.fields.filter Field.isKey = [key] ∧ key.column = model.key ∧
          key.column = metadata.keyColumn ∧ key.kind = metadata.keyKind) ∧
        (∀ name field, metadata.field? name = some field ↔ field ∈ metadata.columns ∧ field.column = name) ∧
        ∀ name, (∃ field, metadata.field? name = some field) ↔ name ∈ metadata.blank.names ∧ name ∉ model.ignored) := by
  refine ⟨⟨fun ⟨_, described⟩ => ⟨_, sound_of_described described⟩, fun ⟨_, sound⟩ => described_of_sound sound⟩, ?_⟩
  intro metadata described
  obtain ⟨_, _, encoded, listed, _⟩ := metadata_eq_ok described
  refine ⟨encoded, describeAll_columns listed, fun distinct => ?_⟩
  have known := Described.of_model described distinct
  obtain ⟨key, found, column, kind, _⟩ := known.key
  have member := List.mem_of_find?_eq_some found
  have inside := mem_fields_of_columns member
  have named := (describeAll_isKey listed key inside).mp (List.find?_some found)
  refine ⟨⟨key, member, known.filter_isKey (isKey_iff described) inside column, named, column, kind⟩,
    fun _ _ => known.field?_eq_some, fun name => ?_⟩
  simp only [known.field?_eq_some, mem_columns]
  constructor
  · rintro ⟨field, ⟨inside, stored⟩, rfl⟩
    refine ⟨known.column_mem inside, fun ignored => ?_⟩
    cases stored.symm.trans ((ignored_iff described field inside).mpr ignored)
  · rintro ⟨present, taken⟩
    rw [← known.columns] at present
    obtain ⟨field, inside, rfl⟩ := List.mem_map.mp present
    refine ⟨field, ⟨inside, ?_⟩, rfl⟩
    simpa using mt (ignored_iff described field inside).mp taken

/-- Tokens are sound. One of their fields is the key, and the one that is not stored is not found. -/
theorem token_described :
    (∃ blank, token.Sound blank) ∧ (∃ key ∈ tokenMetadata.columns, tokenMetadata.fields.filter Field.isKey = [key]) ∧
      (∃ field, tokenMetadata.field? "owner" = some field) ∧ ¬ ∃ field, tokenMetadata.field? "cache" = some field := by
  have described : token.metadata = .ok tokenMetadata := rfl
  have distinct : tokenMetadata.blank.names.Nodup := by decide
  obtain ⟨sound, lists⟩ := described_iff_sound token
  obtain ⟨_, _, fields⟩ := lists tokenMetadata described
  obtain ⟨⟨key, member, only, _⟩, _, found⟩ := fields distinct
  refine ⟨sound.mp ⟨_, described⟩, ⟨key, member, only⟩, (found "owner").mpr (by decide), ?_⟩
  rw [found "cache"]
  decide

end Model

end RecordMapper
