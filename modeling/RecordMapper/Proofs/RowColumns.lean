import RecordMapper.Proofs.SoundModels

/-! What an object takes from a row. Columns are found by their names, so neither their order nor columns that name no
field matter; a field keeps its default where the row has NULL for it, or a float that JSON has no number for. -/

namespace RecordMapper

/-- A float that JSON has no number for: an infinite one, or one that is not a number. -/
def Value.Numberless : Value → Prop
  | .float x => x.isFinite = false
  | _ => False

theorem Value.isNull_toJson {value : Value} : value.toJson.isNull = true ↔ value = .null ∨ value.Numberless := by
  cases value with
  | float x => cases finite : x.isFinite <;> simp [toJson, Json.isNull, Numberless, finite]
  | _ => simp [toJson, Json.isNull, Numberless]

namespace Cell

/-- Where a column stands shows in the text of a failure only. -/
theorem read_anywhere {kind : Kind} {cell : Cell} {value : Value} {index : Nat} (found : cell.read index kind = .ok value)
    (other : Nat) : cell.read other kind = .ok value := by
  unfold read at found ⊢
  split at found <;> first | exact found | cases found

theorem read_eq_null {kind : Kind} {cell : Cell} {index : Nat} : cell.read index kind = .ok .null ↔ cell = .null := by
  constructor
  · intro found
    unfold read at found
    split at found
    case h_1 => rfl
    case h_3 x =>
      unfold integral at found
      split at found
      next => split at found <;> cases found
      next => cases found
    all_goals cases found
  · rintro rfl
    cases kind <;> rfl

end Cell

namespace Record

theorem value?_eq_none_iff {name : String} {record : Record} : record.value? name = none ↔ name ∉ record.names := by
  rw [value?_eq_firstNamed?, firstNamed?_eq_none_iff]
  rfl

/-- Records whose names are distinct differ in their names or in a value. -/
theorem ext {first second : Record} (same : first.names = second.names) (distinct : first.names.Nodup)
    (values : ∀ name, first.value? name = second.value? name) : first = second := by
  induction first generalizing second with
  | nil => exact (List.map_eq_nil_iff.mp same.symm).symm
  | cons entry rest ih =>
    obtain ⟨name, value⟩ := entry
    obtain ⟨⟨key, old⟩, more, rfl, head, tail⟩ := List.map_eq_cons_iff.mp same.symm
    obtain rfl : key = name := head
    obtain ⟨fresh, distinct⟩ := List.nodup_cons.mp distinct
    have here := values key
    simp only [value?, if_true, Option.some.injEq] at here
    subst here
    have others : rest = more := by
      apply ih tail.symm distinct
      intro other
      by_cases same : key = other
      · subst same
        have missing : key ∉ names more := by
          rw [names, tail]
          exact fresh
        rw [value?_eq_none_iff.mpr fresh, value?_eq_none_iff.mpr missing]
      · simpa [value?, same] using values other
    rw [others]

end Record

namespace Metadata

variable {metadata : Metadata} {row other : Row} {old middle new : Record} {column : String} {cell : Cell} {field : Field}

/-- The columns of a row that name a field. -/
def namedIn (metadata : Metadata) (row : Row) : Row := row.filter fun column => (metadata.field? column.1).isSome

theorem mem_namedIn (found : metadata.field? column = some field) :
    (column, cell) ∈ metadata.namedIn row ↔ (column, cell) ∈ row := by
  simp [namedIn, found]

theorem named_iff {name : String} :
    name ∈ (metadata.namedIn row).map Prod.fst ↔ ∃ cell field, (name, cell) ∈ row ∧ metadata.field? name = some field := by
  simp [namedIn, Option.isSome_iff_exists]

theorem named_cons {name : String} {first : String × Cell} :
    name ∈ (metadata.namedIn (first :: row)).map Prod.fst ↔
      name ∈ (metadata.namedIn [first]).map Prod.fst ∨ name ∈ (metadata.namedIn row).map Prod.fst := by
  rw [← List.mem_append, ← List.map_append, namedIn, namedIn, namedIn, ← List.filter_append, List.singleton_append]

theorem mem_of_named {name : String} (named : name ∈ (metadata.namedIn row).map Prod.fst) : name ∈ row.map Prod.fst := by
  obtain ⟨cell, _, listed, _⟩ := named_iff.mp named
  exact List.mem_map_of_mem listed

/-- How a record changes when a row is put into it. A column that names a field can be read in the field's kind, and gives
the field what it reads as, unless that is null in JSON; all else stays. -/
structure Fills (metadata : Metadata) (row : Row) (old new : Record) : Prop where
  names : new.names = old.names
  kept : ∀ name, name ∉ (metadata.namedIn row).map Prod.fst → new.value? name = old.value? name
  taken : ∀ column cell field, (column, cell) ∈ row → metadata.field? column = some field →
    ∃ value, cell.read 0 field.kind = .ok value ∧
      (cell = .null ∨ value.Numberless → new.value? column = old.value? column) ∧
      (cell ≠ .null → ¬ value.Numberless → new.value? column = some value.toJson)

theorem Fills.perm (fills : metadata.Fills row old new) (same : (metadata.namedIn row).Perm (metadata.namedIn other)) :
    metadata.Fills other old new := by
  refine ⟨fills.names, ?_, ?_⟩
  · intro name absent
    apply fills.kept
    rwa [(same.map Prod.fst).mem_iff]
  · intro column cell field member found
    apply fills.taken column cell field _ found
    rwa [← mem_namedIn found, same.mem_iff, mem_namedIn found]

theorem Fills.unique (first : metadata.Fills row old new) (second : metadata.Fills row old middle)
    (distinct : old.names.Nodup) : new = middle := by
  apply Record.ext (first.names.trans second.names.symm)
  · rwa [first.names]
  · intro name
    by_cases named : name ∈ (metadata.namedIn row).map Prod.fst
    · obtain ⟨cell, field, member, found⟩ := named_iff.mp named
      obtain ⟨value, read, keeps, takes⟩ := first.taken name cell field member found
      obtain ⟨again, same, others, alike⟩ := second.taken name cell field member found
      cases read.symm.trans same
      by_cases empty : cell = .null ∨ value.Numberless
      · rw [keeps empty, others empty]
      · obtain ⟨given, told⟩ := not_or.mp empty
        rw [takes given told, alike given told]
    · rw [first.kept name named, second.kept name named]

theorem putCell_fills (described : metadata.Described) (known : old.names = metadata.blank.names) {index : Nat}
    (put : metadata.putCell old index column cell = .ok new) : metadata.Fills [(column, cell)] old new := by
  unfold putCell at put
  split at put
  next stranger =>
    cases put
    refine ⟨rfl, fun _ _ => rfl, ?_⟩
    intro other read field member found
    cases List.mem_singleton.mp member
    cases stranger.symm.trans found
  next field found =>
    obtain ⟨value, read, put⟩ := Outcome.bind_eq_ok.mp put
    have after := Outcome.pure_eq_ok.mp put
    obtain ⟨member, named⟩ := described.field?_eq_some.mp found
    have inside : column ∈ old.names := by
      rw [known, ← named]
      exact described.column_mem (mem_fields_of_columns member)
    have null : value = .null ↔ cell = .null := by
      rw [← @Cell.read_eq_null field.kind cell index, read, Except.ok.injEq]
    have silent : value.toJson.isNull = true ↔ cell = .null ∨ value.Numberless := by rw [Value.isNull_toJson, null]
    refine ⟨?_, ?_, ?_⟩
    · rw [← after]
      split
      · rfl
      · exact Record.names_put _ (named ▸ inside)
    · intro name absent
      have apart : name ≠ field.column := by
        rintro rfl
        exact absent (named_iff.mpr ⟨cell, field, by rw [named]; exact List.mem_singleton_self _, by rwa [named]⟩)
      rw [← after]
      split
      · rfl
      · rw [Record.value?_put, if_neg apart]
    · intro other cell field listed same
      cases List.mem_singleton.mp listed
      cases found.symm.trans same
      refine ⟨value, Cell.read_anywhere read 0, ?_, ?_⟩
      · intro empty
        rw [← after, if_pos (silent.mpr empty)]
      · intro given told
        rw [← after, if_neg (mt silent.mp (not_or.mpr ⟨given, told⟩)), Record.value?_put, if_pos named.symm]

theorem Fills.cons (first : metadata.Fills [(column, cell)] old middle) (rest : metadata.Fills row middle new)
    (fresh : column ∉ row.map Prod.fst) : metadata.Fills ((column, cell) :: row) old new := by
  refine ⟨rest.names.trans first.names, ?_, ?_⟩
  · intro name absent
    rw [named_cons, not_or] at absent
    rw [rest.kept name absent.2, first.kept name absent.1]
  · intro other here field listed found
    rcases List.mem_cons.mp listed with same | later
    · cases same
      rw [rest.kept column (mt mem_of_named fresh)]
      exact first.taken column cell field (List.mem_singleton_self _) found
    · have apart : other ∉ (metadata.namedIn [(column, cell)]).map Prod.fst := by
        intro named
        have same : other = column := List.mem_singleton.mp (mem_of_named named)
        exact fresh (same ▸ List.mem_map_of_mem later)
      rw [← first.kept other apart]
      exact rest.taken other here field later found

theorem putCells_fills (described : metadata.Described) (known : old.names = metadata.blank.names)
    (distinct : (row.map Prod.fst).Nodup) {index : Nat} (put : metadata.putCells old index row = .ok new) :
    metadata.Fills row old new := by
  induction row generalizing old index with
  | nil =>
    cases put
    exact ⟨rfl, fun _ _ => rfl, fun _ _ _ member => nomatch member⟩
  | cons first row ih =>
    obtain ⟨column, cell⟩ := first
    obtain ⟨fresh, distinct⟩ := List.nodup_cons.mp distinct
    obtain ⟨middle, put, later⟩ := Outcome.bind_eq_ok.mp put
    have step := putCell_fills described known put
    exact step.cons (ih (step.names.trans known) distinct later) fresh

/-- A row can be put into a record if the columns that name fields can be read. -/
theorem putCells_readable
    (readable : ∀ column cell field, (column, cell) ∈ row → metadata.field? column = some field →
      ∃ value, cell.read 0 field.kind = .ok value) (old : Record) (index : Nat) :
    ∃ new, metadata.putCells old index row = .ok new := by
  induction row generalizing old index with
  | nil => exact ⟨old, rfl⟩
  | cons first row ih =>
    obtain ⟨column, cell⟩ := first
    have step : ∃ middle, metadata.putCell old index column cell = .ok middle := by
      cases found : metadata.field? column with
      | none => exact ⟨old, by simp [putCell, found]⟩
      | some field =>
        obtain ⟨value, read⟩ := readable column cell field List.mem_cons_self found
        simp [putCell, found, Cell.read_anywhere read index, bind, Except.bind, pure, Except.pure]
    obtain ⟨middle, step⟩ := step
    have others : ∀ column cell field, (column, cell) ∈ row → metadata.field? column = some field →
        ∃ value, cell.read 0 field.kind = .ok value := by
      intro column cell field later
      exact readable column cell field (List.mem_cons_of_mem _ later)
    obtain ⟨new, later⟩ := ih others middle (index + 1)
    exact ⟨new, Outcome.bind_eq_ok.mpr ⟨middle, step, later⟩⟩

theorem putRow_eq_ok (described : metadata.Described) (distinct : (row.map Prod.fst).Nodup) :
    metadata.putRow metadata.blank row = .ok new ↔ metadata.Fills row metadata.blank new := by
  constructor
  · exact putCells_fills described rfl distinct
  · intro fills
    have readable : ∀ column cell field, (column, cell) ∈ row → metadata.field? column = some field →
        ∃ value, cell.read 0 field.kind = .ok value := by
      intro column cell field listed found
      exact (fills.taken column cell field listed found).imp fun _ all => all.1
    obtain ⟨other, put⟩ := putCells_readable readable metadata.blank 0
    rw [fills.unique (putCells_fills described rfl distinct put) described.distinct]
    exact put

theorem decodeRow_eq_ok {model : Model α} (same : model.name = metadata.typeName) {object : α} :
    metadata.decodeRow model row = .ok object ↔
      ∃ record, metadata.putRow metadata.blank row = .ok record ∧ model.decode (.fields record) = .ok object := by
  rw [decodeRow, Outcome.bind_eq_ok]
  refine exists_congr fun record => and_congr_right fun _ => ?_
  simp only [decode, checkModel, same, if_true, bind, Except.bind]
  cases model.decode (.fields record) <;> simp [pure, Except.pure, throw, throwThe, MonadExceptOf.throw]

/-- A row is taken by names. Rows with the same columns of fields, in whatever order and among whatever other columns, give
the same record and the same object. The record is the default one with each field that a column names set to what the
column reads as, unless that is NULL or a float that JSON has no number for; the object is what the model makes of it. -/
theorem decoded_by_names {model : Model α} (described : model.metadata = .ok metadata)
    (distinct : metadata.blank.names.Nodup) (apart : (row.map Prod.fst).Nodup) :
    (∀ other : Row, (other.map Prod.fst).Nodup → (metadata.namedIn row).Perm (metadata.namedIn other) →
      (∀ record, metadata.putRow metadata.blank row = .ok record ↔ metadata.putRow metadata.blank other = .ok record) ∧
      ∀ object, metadata.decodeRow model row = .ok object ↔ metadata.decodeRow model other = .ok object) ∧
    (∀ record, metadata.putRow metadata.blank row = .ok record ↔ metadata.Fills row metadata.blank record) ∧
    ∀ object, metadata.decodeRow model row = .ok object ↔
      ∃ record, metadata.putRow metadata.blank row = .ok record ∧ model.decode (.fields record) = .ok object := by
  have known := Described.of_model described distinct
  have same : model.name = metadata.typeName := (Model.metadata_eq_ok described).1.symm
  refine ⟨?_, fun _ => putRow_eq_ok known apart, fun _ => decodeRow_eq_ok same⟩
  intro other others alike
  have records : ∀ record, metadata.putRow metadata.blank row = .ok record ↔
      metadata.putRow metadata.blank other = .ok record := by
    intro record
    rw [putRow_eq_ok known apart, putRow_eq_ok known others]
    exact ⟨fun fills => fills.perm alike, fun fills => fills.perm alike.symm⟩
  refine ⟨records, ?_⟩
  intro object
  simp only [decodeRow_eq_ok same, records]

/-- A column of an ignored field is passed over like one of no field, and so does not set the cache. -/
theorem token_decoded_by_names :
    let row : Row := [("token", .text "t"), ("owner", .null), ("active", .int 1)]
    let other : Row := [("cache", .text "c"), ("active", .int 1), ("count", .int 7), ("token", .text "t"), ("owner", .null)]
    token.metadata = .ok tokenMetadata ∧ tokenMetadata.blank.names.Nodup ∧ (row.map Prod.fst).Nodup ∧
    ∃ record, tokenMetadata.Fills row tokenMetadata.blank record ∧
      tokenMetadata.decodeRow token row = .ok (.fields record) ∧
      tokenMetadata.decodeRow token other = .ok (.fields record) := by
  intro row other
  have described : token.metadata = .ok tokenMetadata := rfl
  have distinct : tokenMetadata.blank.names.Nodup := by decide
  have apart : (row.map Prod.fst).Nodup := by decide
  obtain ⟨permuted, filled, decoded⟩ := Metadata.decoded_by_names described distinct apart
  have alike : (tokenMetadata.namedIn row).Perm (tokenMetadata.namedIn other) := by decide
  obtain ⟨_, objects⟩ := permuted other (by decide) alike
  let record : Record :=
    [("token", .text "t"), ("owner", .null), ("active", .bool true), ("blob", .list []), ("cache", .text "")]
  have put : tokenMetadata.putRow tokenMetadata.blank row = .ok record := rfl
  have object := (decoded (.fields record)).mpr ⟨record, put, rfl⟩
  exact ⟨described, distinct, apart, record, (filled record).mp put, object, (objects _).mp object⟩

end Metadata

/-- Gauges with a level. -/
def gauge : Model Json where
  name := "Gauge"
  table := "gauge"
  key := "id"
  blank := .fields [("id", .int 0), ("level", .float .zero)]
  encode := .ok
  decode := .ok

def gaugeMetadata : Metadata where
  typeName := "Gauge"
  table := "gauge"
  fields := [⟨"id", .int, false, true, none⟩, ⟨"level", .float, false, false, none⟩]
  keyColumn := "id"
  keyKind := .int
  mirrored := false
  blank := [("id", .int 0), ("level", .float .zero)]

/-- An infinite level is read from the row, and yet the object has the default level. -/
theorem gauge_infinite :
    let infinity : Double := .assemble false Double.infinityMagnitude
    let row : Row := [("id", .int 1), ("level", .double infinity)]
    gauge.metadata = .ok gaugeMetadata ∧ gaugeMetadata.blank.names.Nodup ∧ (row.map Prod.fst).Nodup ∧
    ("level", .double infinity) ∈ row ∧ Cell.read 1 .float (.double infinity) = .ok (.float infinity) ∧
    infinity ≠ .zero ∧ gaugeMetadata.blank.value? "level" = some (.float .zero) ∧
    gaugeMetadata.decodeRow gauge row = .ok (.fields [("id", .int 1), ("level", .float .zero)]) :=
  ⟨rfl, by decide, by decide, by decide, rfl, by decide, rfl, rfl⟩

end RecordMapper
