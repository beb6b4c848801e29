import RecordMapper.Proofs.SplitUpdates
import RecordMapper.Proofs.UpdateTexts

/-! What an update of a batch does to the rows of a model's table. Records with different keys are about different rows:
a row takes over the values of the one record whose key it has, and keys and all other rows stay as they are. -/

namespace RecordMapper

namespace Text

theorem toList_loop (bytes : ByteArray) (index : Nat) (read : List UInt8) :
    ByteArray.toList.loop bytes index read = read.reverse ++ bytes.data.toList.drop index := by
  fun_induction ByteArray.toList.loop bytes index read with
  | case1 index read inside ih =>
    have within : index < bytes.data.size := inside
    have next : bytes.data.toList.drop index = bytes.get! index :: bytes.data.toList.drop (index + 1) := by
      rw [List.drop_eq_getElem_cons (by simpa using within)]
      simpa [ByteArray.get!] using (getElem!_pos bytes.data index within).symm
    rw [ih, next, List.reverse_cons, List.append_assoc, List.singleton_append]
  | case2 index read outside =>
    have short : bytes.data.size ≤ index := Nat.le_of_not_lt outside
    rw [List.drop_eq_nil_of_le (by simpa using short), List.append_nil]

theorem eq_of_octets {first second : String} (same : first.toUTF8.toList = second.toUTF8.toList) : first = second := by
  simp only [ByteArray.toList, toList_loop, List.reverse_nil, List.nil_append, List.drop_zero, Array.toList_inj] at same
  exact String.toByteArray_inj.mp (ByteArray.ext same)

end Text

namespace Datum

theorem eq_of_compareOctets {first second : List UInt8} (same : compareOctets first second = .eq) : first = second := by
  induction first generalizing second with
  | nil =>
    cases second with
    | nil => rfl
    | cons octet rest => cases same
  | cons octet rest ih =>
    cases second with
    | nil => cases same
    | cons other more =>
      rw [compareOctets, Ordering.then_eq_eq] at same
      rw [ih same.2, UInt8.toNat_inj.mp (Std.LawfulEqCmp.eq_of_compare same.1)]

end Datum

/-- What a column holds that a value has been put into. Floats have one zero, and what is no number is NULL. -/
def Value.held : Value → Datum
  | .float x => if x.isZero then .real .zero else .ofValue (.float x)
  | value => .ofValue value

theorem Affinity.store_ofValue {kind : Kind} {value : Value} (suits : value.Suits kind) :
    (ofKind kind).store (.ofValue value) = value.held := by
  rcases suits with rfl | known
  · cases kind <;> rfl
  · cases value with
    | null => cases known
    | int | text | bytes | bool =>
      cases known
      rfl
    | float x =>
      cases known
      rw [Value.held, Datum.ofValue]
      by_cases zero : x.isZero = true
      · have number : x.isNaN = false := by
          have none_ : x.magnitude = 0 := by simpa [Double.isZero] using zero
          simp [Double.isNaN, none_]
        simp [number, zero, ofKind, store, Datum.numberIfWhole]
      · cases x.isNaN <;> simp [zero, ofKind, store, Datum.numberIfWhole]

namespace Likeness

/-- What equals a text in a column of texts is that text, or is stored as it, or is its octets. -/
theorem stored_of_order {datum : Datum} (plain : datum.plain = datum) {text : String}
    (same : ({ affinity := .text } : Likeness).order datum (.text text) = .eq) :
    Affinity.text.store datum = .text text ∨ datum = .garbled text.toUTF8.toList := by
  cases datum with
  | null | blob octets => cases same
  | document s => cases plain
  | text s => exact .inl (congrArg Datum.text (text_of_order same))
  | int n => exact .inl (congrArg Datum.text (text_of_order same))
  | real x => exact .inl (congrArg Datum.text (text_of_order same))
  | garbled octets => exact .inr (congrArg Datum.garbled (Datum.eq_of_compareOctets same))

theorem text_unique {datum : Datum} (plain : datum.plain = datum) {first second : String}
    (one : ({ affinity := .text } : Likeness).order datum (.text first) = .eq)
    (other : ({ affinity := .text } : Likeness).order datum (.text second) = .eq) : first = second := by
  rcases stored_of_order plain one with stored | rfl
  · rcases stored_of_order plain other with again | rfl
    · exact Datum.text.inj (stored.symm.trans again)
    · cases stored
  · rcases stored_of_order plain other with stored | again
    · cases stored
    · exact Text.eq_of_octets (Datum.garbled.inj again)

end Likeness

namespace Metadata

variable {metadata : Metadata}

/-- A row has the key of records with one key alone. -/
theorem key_unique (described : metadata.Described) {datum : Datum} (plain : datum.plain = datum)
    (number : metadata.keyKind = .int → Table.isInt datum = true) {first second : Record}
    (one : metadata.Updatable first) (other : metadata.Updatable second) (has : metadata.hasKey datum first = true)
    (too : metadata.hasKey datum second = true) : metadata.keyIn first = metadata.keyIn second := by
  obtain ⟨_, _, _, _, kinds⟩ := described.key
  have firstKind := kind_of_updateKey one.key
  have secondKind := kind_of_updateKey other.key
  have firstOrder := Likeness.order_of_versus has
  have secondOrder := Likeness.order_of_versus too
  rw [likeness] at firstOrder secondOrder
  generalize metadata.keyIn first = key at firstKind firstOrder ⊢
  generalize metadata.keyIn second = others at secondKind secondOrder ⊢
  rcases kinds with int | text
  · rw [int] at firstKind secondKind firstOrder secondOrder
    cases datum with
    | int n =>
      cases key with
      | int a =>
        cases others with
        | int b => rw [← Likeness.int_of_order firstOrder, ← Likeness.int_of_order secondOrder]
        | _ => cases secondKind
      | _ => cases firstKind
    | _ => cases number int
  · rw [text] at firstKind secondKind firstOrder secondOrder
    cases key with
    | text a =>
      cases others with
      | text b => rw [Likeness.text_unique plain firstOrder secondOrder]
      | _ => cases secondKind
    | _ => cases firstKind

theorem hasKey_self (described : metadata.Described) {record : Record} (updatable : metadata.Updatable record) :
    metadata.hasKey (.ofValue (metadata.keyIn record)) record = true := by
  obtain ⟨_, _, _, _, kinds⟩ := described.key
  have kind := kind_of_updateKey updatable.key
  rw [hasKey, likeness]
  generalize metadata.keyIn record = key at kind ⊢
  rcases kinds with int | text
  · rw [int] at kind ⊢
    cases key with
    | int n =>
      have same : compare n.toInt n.toInt = .eq := Std.ReflCmp.compare_self
      exact (Likeness.versus_isTrue rfl rfl).mpr same
    | _ => cases kind
  · rw [text] at kind ⊢
    cases key with
    | text s =>
      have same : compare s.toList s.toList = .eq := Std.ReflCmp.compare_self
      exact (Likeness.versus_isTrue rfl rfl).mpr same
    | _ => cases kind

/-- A row that has been stored with a value as its key has the keys of exactly the records whose key is that value. -/
theorem hasKey_ofValue (described : metadata.Described) {record : Record} (updatable : metadata.Updatable record)
    {value : Value} (kind : value.kind? = some metadata.keyKind) :
    metadata.hasKey (.ofValue value) record = true ↔ metadata.keyIn record = value := by
  constructor
  · exact eq_of_hasKey described updatable.key kind
  · rintro rfl
    exact hasKey_self described updatable

end Metadata

namespace Table

/-- The first record whose key a row has decides what a column is set to. -/
theorem choose_arms {metadata : Metadata} {datum : Datum} {records : List Record} {record : Record}
    (member : record ∈ records) (has : metadata.hasKey datum record = true)
    (alone : ∀ other ∈ records, metadata.hasKey datum other = true → other = record) (field : Field) :
    choose ⟨datum, metadata.likeness⟩ (Statement.armsOf metadata records field) =
      .ofValue (metadata.valueIn record field) := by
  induction records with
  | nil => cases member
  | cons first rest ih =>
    rw [Statement.armsOf, List.map_cons, choose]
    by_cases here : metadata.hasKey datum first = true
    · rw [← alone first List.mem_cons_self here]
      exact if_pos here
    · have later : record ∈ rest := by
        rcases List.mem_cons.mp member with rfl | later
        · exact absurd has here
        · exact later
      exact (if_neg here).trans (ih later fun other inside => alone other (List.mem_cons_of_mem first inside))

end Table

namespace Tuple

theorem names_set (column : String) (datum : Datum) (tuple : Tuple) :
    (tuple.set column datum).map Prod.fst = tuple.map Prod.fst := by
  rw [set, List.map_map]
  apply List.map_congr_left
  intro entry _
  dsimp only [Function.comp_apply]
  split <;> rfl

theorem get_set_self {column : String} {tuple : Tuple} (present : column ∈ tuple.map Prod.fst) (datum : Datum) :
    (tuple.set column datum).get column = datum := by
  have found : firstNamed? column (tuple.set column datum) = some datum := by
    induction tuple with
    | nil => cases present
    | cons entry rest ih =>
      obtain ⟨name, old⟩ := entry
      rw [set] at ih ⊢
      by_cases same : name = column
      · simp [firstNamed?, same]
      · have later : column ∈ rest.map Prod.fst := by simpa [Ne.symm same] using present
        simpa [firstNamed?, same] using ih later
  rw [get, found, Option.getD_some]

end Tuple

namespace Table

theorem names_assign (table : Table) (columns : List (String × Datum)) (tuple : Tuple) :
    (table.assign columns tuple).map Prod.fst = tuple.map Prod.fst := by
  induction columns generalizing tuple with
  | nil => rfl
  | cons entry rest ih =>
    obtain ⟨name, datum⟩ := entry
    rw [assign, List.foldl_cons]
    refine (ih _).trans ?_
    dsimp only
    split
    · exact Tuple.names_set _ _ tuple
    · rfl

theorem names_updatedRow (table : Table) (chosen : Tuple → Bool) (change : Tuple → List (String × Datum)) (row : Tuple) :
    (table.updatedRow chosen change row).map Prod.fst = row.map Prod.fst := by
  rw [updatedRow]
  split
  · exact names_assign _ _ _
  · rfl

theorem get_assign_mem {table : Table} {columns : List (String × Datum)} (distinct : (columns.map Prod.fst).Nodup)
    {name : String} {datum : Datum} (member : (name, datum) ∈ columns) {column : ColumnDef}
    (found : table.allColumns.find? (fun other => other.name = name) = some column) {tuple : Tuple}
    (present : name ∈ tuple.map Prod.fst) :
    (table.assign columns tuple).get name = (Affinity.ofKind column.kind).store datum := by
  induction columns generalizing tuple with
  | nil => cases member
  | cons entry rest ih =>
    obtain ⟨key, old⟩ := entry
    obtain ⟨fresh, others⟩ := List.nodup_cons.mp distinct
    rw [assign, List.foldl_cons]
    rcases List.mem_cons.mp member with same | later
    · cases same
      refine (get_assign fresh table _).trans ?_
      simp only [found]
      exact Tuple.get_set_self present _
    · apply ih others later
      dsimp only
      split
      · rw [Tuple.names_set]
        exact present
      · exact present

/-- Of several data for a column the last stays. -/
theorem get_assign_last {table : Table} {columns : List (String × Datum)} {name : String} {datum : Datum}
    (last : firstNamed? name columns.reverse = some datum) {column : ColumnDef}
    (found : table.allColumns.find? (fun other => other.name = name) = some column) {tuple : Tuple}
    (present : name ∈ tuple.map Prod.fst) :
    (table.assign columns tuple).get name = (Affinity.ofKind column.kind).store datum := by
  induction columns using List.reverseRecOn with
  | nil => cases last
  | append_singleton before entry ih =>
    obtain ⟨key, given⟩ := entry
    have split : table.assign (before ++ [(key, given)]) tuple = table.assign [(key, given)] (table.assign before tuple) := by
      rw [assign, List.foldl_append]
      rfl
    rw [List.reverse_append, List.reverse_singleton, List.singleton_append, firstNamed?] at last
    have inside : name ∈ (table.assign before tuple).map Prod.fst := by
      rw [names_assign]
      exact present
    rw [split]
    split at last
    next same =>
      cases last
      cases same
      generalize table.assign before tuple = reached at inside
      simp only [assign, List.foldl_cons, List.foldl_nil, found]
      exact Tuple.get_set_self inside _
    next other =>
      rw [get_assign (by simpa using Ne.symm other)]
      exact ih last

theorem withRows_map_error {table : Table} (kept : table.Kept) {change : Tuple → Tuple}
    (same : ∀ row, ∀ name ∈ table.uniqueNames, (change row).get name = row.get name) {fault : Fault}
    (refused : table.withRows (table.rows.map change) = .error fault) :
    ∃ row ∈ table.rows, ∃ column, table.lacking? (change row) = some column ∧
      fault = .notNull table.name column.name := by
  have numbered : ((table.rows.map change).any fun row => !isInt (row.get table.rowKey.name)) = false := by
    obtain ⟨ints, _⟩ := withRows_eq_ok.mp kept
    simpa [same _ _ table.rowKey_mem] using ints
  cases found : (table.rows.map change).findSome? table.lacking? with
  | none =>
    have filled : ∀ row ∈ table.rows, table.lacking? (change row) = none := by simpa using found
    rw [(withRows_map kept same).mpr ⟨filled, rfl⟩] at refused
    cases refused
  | some column =>
    obtain ⟨_, member, lacks⟩ := List.exists_of_findSome?_eq_some found
    obtain ⟨row, inside, rfl⟩ := List.mem_map.mp member
    refine ⟨row, inside, column, lacks, ?_⟩
    simp only [withRows, numbered, checkRequired, found] at refused
    cases refused
    rfl

theorem updateRows_error {table : Table} {chosen : Tuple → Bool} {change : Tuple → List (String × Datum)}
    (spares : ∀ row, ∀ name ∈ table.uniqueNames, name ∉ (change row).map Prod.fst) (kept : table.Kept) {fault : Fault}
    (refused : table.updateRows chosen change = .error fault) :
    ∃ row ∈ table.rows, ∃ column, table.lacking? (table.updatedRow chosen change row) = some column ∧
      fault = .notNull table.name column.name := by
  apply withRows_map_error kept fun row _ unique => get_updatedRow spares row unique
  cases taken : table.withRows (table.rows.map (table.updatedRow chosen change)) with
  | error other =>
    have failed : table.updateRows chosen change = .error other := congrArg (· >>= _) taken
    cases failed.symm.trans refused
    rfl
  | ok changed =>
    have succeeded : table.updateRows chosen change = .ok (_, changed) := congrArg (· >>= _) taken
    rw [succeeded] at refused
    cases refused

theorem updateKeyed_error {table : Table} {key : String} {change : KeyedChange} (kept : table.Kept)
    (spares : change.Spares table) {fault : Fault} (refused : table.updateKeyed key change = .error fault) :
    ∃ row ∈ table.rows, ∃ column, table.lacking? (table.changedRow key change row) = some column ∧
      fault = .notNull table.name column.name :=
  updateRows_error (fun row => spares (row.get key)) kept refused

end Table

namespace Metadata

/-- What the update of a batch makes of one row: a record whose key the row has gives every column besides the key
its value, and all else stays as it was. -/
structure Rewrites (metadata : Metadata) (records : List Record) (before after : Tuple) : Prop where
  columns : after.map Prod.fst = before.map Prod.fst
  key : after.get metadata.keyColumn = before.get metadata.keyColumn
  others : ∀ name, name ∉ metadata.dataColumns.map Field.column → after.get name = before.get name
  own : ∀ record ∈ records, metadata.hasKey (before.get metadata.keyColumn) record = true →
    ∀ field ∈ metadata.dataColumns, ∃ value, metadata.valueOf record field = .ok value ∧
      after.get field.column = value.held
  spared : (∀ record ∈ records, metadata.hasKey (before.get metadata.keyColumn) record = false) → after = before

end Metadata

namespace Table

/-- The table of a model with rows that have all its columns. What they hold as their key is told apart by nothing but
comparison. -/
structure Holds (table : Table) (metadata : Metadata) : Prop extends table.Stores metadata where
  present : ∀ row ∈ table.rows, ∀ field ∈ metadata.columns, field.column ∈ row.map Prod.fst
  plain : ∀ datum ∈ table.dataIn metadata.keyColumn, datum.plain = datum

namespace Holds

variable {table : Table} {metadata : Metadata} (holds : table.Holds metadata) (described : metadata.Described)
include holds described

theorem find?_column {field : Field} (member : field ∈ metadata.columns) :
    table.allColumns.find? (fun column => column.name = field.column) = some (Statement.columnDef metadata field) := by
  have listed : metadata.columns.find? (fun other => other.column = field.column) = some field :=
    described.field?_column member
  have found : table.columns.find? (fun column => column.name = field.column) =
      some (Statement.columnDef metadata field) := by
    rw [holds.columns, List.find?_map]
    exact congrArg (Option.map (Statement.columnDef metadata)) listed
  rw [allColumns, List.find?_append, found, Option.some_or]

theorem isInt_key (int : metadata.keyKind = .int) {row : Tuple} (member : row ∈ table.rows) :
    isInt (row.get metadata.keyColumn) = true := by
  obtain ⟨key, found, column, kind⟩ := holds.key? described
  have number : isNumber key = true := by simp [isNumber, kind, int, Affinity.ofKind]
  have rowKey : table.rowKey.name = metadata.keyColumn := by simp [Table.rowKey, found, Option.filter, number, column]
  rw [← rowKey]
  exact (withRows_eq_ok.mp holds.kept).1 row member

theorem rewrites {records : List Record} (updatable : ∀ record ∈ records, metadata.Updatable record)
    (different : (records.map metadata.keyIn).Nodup) {row : Tuple} (member : row ∈ table.rows) :
    metadata.Rewrites records row (table.changedRow metadata.keyColumn (metadata.change records) row) := by
  have spares := holds.spares described records
  have names (datum : Datum) : ((metadata.change records).data datum).map Prod.fst = metadata.dataColumns.map Field.column := by
    rw [Metadata.change, List.map_map]
    rfl
  have kept (name : String) (absent : name ∉ metadata.dataColumns.map Field.column) :
      (table.changedRow metadata.keyColumn (metadata.change records) row).get name = row.get name := by
    rw [changedRow]
    split
    · exact get_assign (by rwa [names]) _ _
    · rfl
  refine ⟨?_, get_changedRow spares _ _ (holds.key_unique described), kept, ?_, ?_⟩
  · rw [changedRow]
    split
    · exact names_assign _ _ _
    · rfl
  · intro record given has field data
    have chosen : (metadata.change records).chosen (row.get metadata.keyColumn) = true :=
      List.any_eq_true.mpr ⟨record, given, has⟩
    have inside : field ∈ metadata.columns := List.mem_of_mem_filter data
    -- No other record has the row's key, so that the first arm that fits is this record's.
    have alone (other : Record) (also : other ∈ records)
        (too : metadata.hasKey (row.get metadata.keyColumn) other = true) : other = record := by
      refine List.inj_on_of_nodup_map different also given ?_
      exact Metadata.key_unique described (holds.plain _ (List.mem_map_of_mem member))
        (fun int => holds.isInt_key described int member) (updatable other also) (updatable record given) too has
    have value := (updatable record given).values field data
    have set : (field.column, Datum.ofValue (metadata.valueIn record field)) ∈
        (metadata.change records).data (row.get metadata.keyColumn) := by
      rw [Metadata.change, ← choose_arms given has alone field]
      exact List.mem_map_of_mem data
    refine ⟨_, value, ?_⟩
    rw [changedRow, if_pos chosen,
      get_assign_mem (by rw [names]; exact described.nodup_columns.sublist (List.filter_sublist.map _)) set
        (holds.find?_column described inside) (holds.present row member field inside)]
    exact Affinity.store_ofValue (Value.suits_of_ofJson (Metadata.valueOf_eq_ok.mp value))
  · intro none_
    have unchosen : (metadata.change records).chosen (row.get metadata.keyColumn) = false :=
      List.any_eq_false.mpr fun record given => by simp [none_ record given]
    rw [changedRow, unchosen]
    rfl

/-- An update is refused only where a record has no value for a column that needs one. -/
theorem refused {records : List Record} (updatable : ∀ record ∈ records, metadata.Updatable record)
    (different : (records.map metadata.keyIn).Nodup) {fault : Fault}
    (failed : table.updateKeyed metadata.keyColumn (metadata.change records) = .error fault) :
    ∃ row ∈ table.rows, ∃ record ∈ records, metadata.hasKey (row.get metadata.keyColumn) record = true ∧
      ∃ field ∈ metadata.dataColumns, (Statement.columnDef metadata field).required = true ∧
        (∃ value, metadata.valueOf record field = .ok value ∧ value.held = .null) ∧
        fault = .notNull table.name field.column := by
  obtain ⟨row, member, column, lacks, rfl⟩ := updateKeyed_error holds.kept (holds.spares described records) failed
  have rewrites := holds.rewrites described updatable different member
  have changed : ∃ record ∈ records, metadata.hasKey (row.get metadata.keyColumn) record = true := by
    by_contra none_
    rw [rewrites.spared (by simpa using none_), holds.kept.lacking row member] at lacks
    cases lacks
  obtain ⟨record, given, has⟩ := changed
  obtain ⟨field, data, rfl, required, missing⟩ := holds.lacking?_eq_some lacks
  obtain ⟨value, bound, set⟩ := rewrites.own record given has field data
  exact ⟨row, member, record, given, has, field, data, required, ⟨value, bound, set.symm.trans missing⟩, rfl⟩

/-- The model's table stays one when rows change but for what no two share. -/
theorem updateRows {chosen : Tuple → Bool} {change : Tuple → List (String × Datum)}
    (spares : ∀ row, ∀ name ∈ table.uniqueNames, name ∉ (change row).map Prod.fst) {count : Nat} {changed : Table}
    (made : table.updateRows chosen change = .ok (count, changed)) :
    changed.Holds metadata ∧ changed.name = table.name ∧ count = table.rows.countP chosen ∧
      changed.rows = table.rows.map (table.updatedRow chosen change) := by
  have still := holds.kept.updateRows spares made
  obtain ⟨_, counted, rfl⟩ := (updateRows_eq_ok spares holds.kept).mp made
  refine ⟨⟨⟨holds.columns, holds.unalike, still⟩, ?_, ?_⟩, rfl, counted, rfl⟩
  · intro row member field inside
    obtain ⟨old, before, rfl⟩ := List.mem_map.mp member
    rw [names_updatedRow]
    exact holds.present old before field inside
  · intro datum member
    obtain ⟨row, changed, rfl⟩ := List.mem_map.mp member
    obtain ⟨old, before, rfl⟩ := List.mem_map.mp changed
    rw [get_updatedRow spares old (holds.key_unique described)]
    exact holds.plain _ (List.mem_map_of_mem before)

theorem updated {records : List Record} (updatable : ∀ record ∈ records, metadata.Updatable record)
    (different : (records.map metadata.keyIn).Nodup) {count : Nat} {changed : Table}
    (made : table.updateKeyed metadata.keyColumn (metadata.change records) = .ok (count, changed)) :
    changed.Holds metadata ∧ changed.name = table.name ∧
      count = (table.dataIn metadata.keyColumn).countP (fun datum => records.any (metadata.hasKey datum)) ∧
      List.Forall₂ (metadata.Rewrites records) table.rows changed.rows := by
  have spares := holds.spares described records
  obtain ⟨still, name, counted, rows⟩ := holds.updateRows described (fun row => spares (row.get metadata.keyColumn)) made
  refine ⟨still, name, ?_, ?_⟩
  · rw [counted, dataIn, List.countP_map]
    rfl
  · rw [rows, List.forall₂_map_right_iff, List.forall₂_same]
    exact fun row member => holds.rewrites described updatable different member

end Holds

end Table

namespace Statement

/-- The update of a batch writes each record to its own row. It is made for exactly the batches that have a key and
fitting values for every record, of a model with columns besides the key and with good names. Its text is a choice on
the key for every column with the parameters in their places. Where it runs, the rows with a record's key are counted and
take over that record's values, and nothing else changes; it is refused only if a record has no value where the table
needs one. -/
theorem update_writes_own_rows {model : Model α} {metadata : Metadata} (described : model.metadata = .ok metadata)
    (distinct : metadata.blank.names.Nodup) (database : Option String) (records : List Record) :
    ((∃ failure, updateBatch database metadata records = .error failure) ↔
      records = [] ∨
      (∃ record ∈ records, ∀ key, metadata.keyOf record = .ok key → key.isZero = true) ∨
      (∃ record ∈ records, ∃ field ∈ metadata.dataColumns, ∃ failure, metadata.valueOf record field = .error failure) ∨
      metadata.dataColumns = [] ∨
      Name.check metadata.table ≠ .ok () ∨
      ∃ name, database = some name ∧ name ≠ "" ∧ Name.check name ≠ .ok ()) ∧
    ∀ statement, updateBatch database metadata records = .ok statement →
      ∃ ref, TableRef.make database metadata.table = .ok ref ∧ (∀ record ∈ records, metadata.Updatable record) ∧
      (∀ record ∈ records, ∀ value : Value, value.kind? = some metadata.keyKind →
        (metadata.hasKey (.ofValue value) record = true ↔ metadata.keyIn record = value)) ∧
      statement.params =
        (metadata.dataColumns.flatMap fun field =>
          records.flatMap fun record => [metadata.keyIn record, metadata.valueIn record field]) ++
        records.map metadata.keyIn ∧
      (∀ dialect, ∃ template : Template, template.places = statement.params.length ∧
        statement.text dialect = template.fill (Template.numbered dialect.placeholder statement.params.length) ∧
        ∀ print, template.fill (statement.params.map print) = updateText metadata ref records dialect print) ∧
      ∀ tables table, Tables.find tables ref = .ok table → table.Holds metadata → (records.map metadata.keyIn).Nodup →
        match Database.runCommand tables statement.command with
        | .ok (answer, after) =>
          answer = .touched ((table.dataIn metadata.keyColumn).countP fun datum => records.any (metadata.hasKey datum)) ∧
          ∃ changed, after = Database.replace tables changed ∧ changed.Holds metadata ∧ changed.name = table.name ∧
            List.Forall₂ (metadata.Rewrites records) table.rows changed.rows
        | .error fault =>
          ∃ row ∈ table.rows, ∃ record ∈ records, metadata.hasKey (row.get metadata.keyColumn) record = true ∧
            ∃ field ∈ metadata.dataColumns, (columnDef metadata field).required = true ∧
              (∃ value, metadata.valueOf record field = .ok value ∧ value.held = .null) ∧
              fault = .notNull table.name field.column := by
  have known := Metadata.Described.of_model described distinct
  refine ⟨updateBatch_fails, fun statement made => ?_⟩
  obtain ⟨_, _, updatable, ref, named, rfl⟩ := updateBatch_eq_ok.mp made
  refine ⟨ref, named, updatable, fun record member _ kind => Metadata.hasKey_ofValue known (updatable record member) kind,
    params_updateOf metadata ref records, text_updateOf metadata ref records, ?_⟩
  intro tables table found holds different
  rw [Database.runCommand_updateOf known found holds.toStores]
  cases ran : table.updateKeyed metadata.keyColumn (metadata.change records) with
  | error fault => exact holds.refused known updatable different ran
  | ok result =>
    obtain ⟨count, changed⟩ := result
    obtain ⟨still, name, rfl, rewritten⟩ := holds.updated known updatable different ran
    exact ⟨rfl, changed, rfl, still, name, rewritten⟩

/-- Of two counts, the one whose counter is there is written. -/
theorem counts_written :
    ∃ statement changed, updateBatch none counterMetadata (counts [(1, 5), (2, 6)]) = .ok statement ∧
      statement.params = [.int 1, .int 5, .int 2, .int 6, .int 1, .int 2] ∧
      Database.runCommand [counterTable 1 0] statement.command =
        .ok (.touched 1, Database.replace [counterTable 1 0] changed) ∧
      List.Forall₂ (counterMetadata.Rewrites (counts [(1, 5), (2, 6)])) (counterTable 1 0).rows changed.rows := by
  have described : counter.metadata = .ok counterMetadata := rfl
  have made : updateBatch none counterMetadata (counts [(1, 5), (2, 6)]) =
      .ok (updateOf counterMetadata ⟨none, "counter"⟩ (counts [(1, 5), (2, 6)])) := rfl
  have kept : (counterTable 1 0).withRows (counterTable 1 0).rows = .ok (counterTable 1 0) := by with_unfolding_all rfl
  have holds : (counterTable 1 0).Holds counterMetadata :=
    { columns := rfl
      unalike := by decide
      kept := kept
      present := by decide
      plain := by decide }
  have ran : Database.runCommand [counterTable 1 0]
      (updateOf counterMetadata ⟨none, "counter"⟩ (counts [(1, 5), (2, 6)])).command =
        .ok (.touched 1, [counterTable 1 5]) := by with_unfolding_all rfl
  obtain ⟨_, succeeds⟩ := update_writes_own_rows described (by decide) none (counts [(1, 5), (2, 6)])
  obtain ⟨ref, named, _, _, params, _, runs⟩ := succeeds _ made
  cases named
  have written := runs [counterTable 1 0] (counterTable 1 0) rfl holds (by decide)
  rw [ran] at written
  obtain ⟨_, changed, replaced, _, _, rewrites⟩ := written
  exact ⟨_, changed, made, params, replaced ▸ ran, rewrites⟩

end Statement

end RecordMapper
