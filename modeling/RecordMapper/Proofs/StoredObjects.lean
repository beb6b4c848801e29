import RecordMapper.Model.Shape
import RecordMapper.Proofs.ModelRecords
import RecordMapper.Proofs.StatementOutcomes
import RecordMapper.Row
import RecordMapper.Sql.Tables

/-! Objects read back as they were stored. A column's value is bound, returned and put into the default object; the only
values that change on the way are integers beyond the signed range. -/

namespace RecordMapper

/-- What a database returns for a bound value: the same, but for a boolean perhaps one of the integers zero and one. -/
inductive Cell.Returns : Value → Cell → Prop where
  | null : Returns .null .null
  | int (n : Int64) : Returns (.int n) (.int n)
  | float (x : Double) : Returns (.float x) (.double x)
  | text (s : String) : Returns (.text s) (.text s)
  | bytes (octets : List UInt8) : Returns (.bytes octets) (.blob octets)
  | bool (b : Bool) : Returns (.bool b) (.bool b)
  | number (b : Bool) : Returns (.bool b) (.int (if b then 1 else 0))

/-- Exactly the integers of the signed range are kept in 64 bits. -/
theorem Word.toInt_ofInt_eq (n : Int) : (Int64.ofInt n).toInt = n ↔ fitsSigned n = true := by
  have bounds : fitsSigned n = true ↔ -9223372036854775808 ≤ n ∧ n < 9223372036854775808 := by
    rw [fitsSigned, Bool.and_eq_true, decide_eq_true_eq, decide_eq_true_eq]
    rfl
  have wide : ((Int64.size : Nat) : Int) = 18446744073709551616 := rfl
  rw [bounds, Int64.toInt_ofInt, Int.bmod_def, wide]
  split <;> omega

namespace Value

theorem octets?_eq_some {items : List Json} {octets : List UInt8} (read : octets? items = some octets) :
    items = octets.map fun octet => .int octet.toNat := by
  induction items generalizing octets with
  | nil =>
    cases read
    rfl
  | cons item rest ih =>
    unfold octets? at read
    split at read
    next octet others first later =>
      cases read
      unfold octet? at first
      split at first
      next n =>
        split at first
        next inside =>
          cases first
          have size : ((UInt8.ofNat n.toNat).toNat : Int) = n := by
            rw [UInt8.toNat_ofNat']
            omega
          rw [List.map_cons, size, ← ih later]
        next => cases first
      next => cases first
    next => cases read

/-- A bound value is the JSON it was made from, but for floats and for integers beyond the signed range. -/
theorem toJson_ofJson {kind : Kind} {json : Json} {value : Value} (bound : ofJson? kind json = some value)
    (other : kind ≠ .float) :
    (value.toJson = json ↔ ∀ n, json = .int n → Word.fitsSigned n = true) ∧ (value.toJson.isNull = true ↔ json = .null) := by
  unfold ofJson? at bound
  split at bound
  case h_1 =>
    cases bound
    simp [toJson, Json.isNull]
  case h_2 n =>
    cases bound
    simpa [toJson, Json.isNull] using Word.toInt_ofInt_eq n
  case h_3 | h_4 => exact absurd rfl other
  case h_5 =>
    cases bound
    simp [toJson, Json.isNull]
  case h_6 =>
    cases bound
    simp [toJson, Json.isNull]
  case h_7 items =>
    obtain ⟨octets, read, rfl⟩ := Option.map_eq_some_iff.mp bound
    rw [octets?_eq_some read]
    simp [toJson, Json.isNull]
  case h_8 => cases bound

end Value

/-- A column reads back the value that it was given. -/
theorem Cell.read_returned {kind : Kind} {value : Value} {cell : Cell} (suits : value.Suits kind)
    (returned : Returns value cell) (index : Nat) : cell.read index kind = .ok value := by
  obtain rfl | known := suits
  · cases returned
    cases kind <;> rfl
  · cases returned with
    | null => cases known
    | number b =>
      cases known
      cases b <;> rfl
    | int | float | text | bytes | bool =>
      cases known
      rfl

namespace Metadata

/-- A cell holds what a column of a record has been stored as. -/
def Holds (metadata : Metadata) (record : Record) (field : Field) (cell : Cell) : Prop :=
  ∃ value, metadata.valueOf record field = .ok value ∧ Cell.Returns value cell

/-- What a column of a record is read back as; null stands for what is not stored. -/
def stored (record : Record) (field : Field) : Json :=
  ((Value.ofJson? field.kind ((record.value? field.column).getD .null)).getD .null).toJson

theorem valueOf_eq_ok {metadata : Metadata} {record : Record} {field : Field} {value : Value} :
    metadata.valueOf record field = .ok value ↔
      Value.ofJson? field.kind ((record.value? field.column).getD .null) = some value := by
  simp only [valueOf]
  split
  next found same => simp [same]
  next same => simp [same]

/-- Columns put into a record that has their names give them what was stored, unless that is null. -/
theorem putCells_stored {metadata : Metadata} (described : metadata.Described) {original : Record}
    {fields : List Field} {cells : List Cell} (holds : List.Forall₂ (metadata.Holds original) fields cells)
    (inside : ∀ field ∈ fields, field ∈ metadata.columns) (distinct : (fields.map Field.column).Nodup) (record : Record)
    (known : record.names = metadata.blank.names) (index : Nat) :
    ∃ rebuilt, metadata.putCells record index ((fields.map Field.column).zip cells) = .ok rebuilt ∧
      rebuilt.names = record.names ∧
      (∀ field ∈ fields, rebuilt.value? field.column =
        if (stored original field).isNull then record.value? field.column else some (stored original field)) ∧
      ∀ name, name ∉ fields.map Field.column → rebuilt.value? name = record.value? name := by
  induction holds generalizing record index with
  | nil => exact ⟨record, rfl, rfl, by simp, fun _ _ => rfl⟩
  | @cons field cell fields cells held rest ih =>
    obtain ⟨value, bound, returned⟩ := held
    rw [valueOf_eq_ok] at bound
    have read := Cell.read_returned (Value.suits_of_ofJson bound) returned index
    have json : stored original field = value.toJson := by simp [stored, bound]
    have member := inside field (by simp)
    obtain ⟨fresh, distinct⟩ := List.nodup_cons.mp distinct
    have named : field.column ∈ record.names := by
      rw [known]
      exact described.column_mem (mem_fields_of_columns member)
    generalize next : (if value.toJson.isNull then record else record.put field.column value.toJson) = changed
    have put : metadata.putCell record index field.column cell = .ok changed := by
      simp [putCell, described.field?_column member, read, ← next, bind, Except.bind, pure, Except.pure]
    have names : changed.names = record.names := by
      rw [← next]
      split
      · rfl
      · exact Record.names_put _ named
    obtain ⟨rebuilt, added, same, values, others⟩ :=
      ih (fun later member => inside later (by simp [member])) distinct changed (names.trans known) (index + 1)
    have first (name : String) : changed.value? name =
        if name = field.column ∧ value.toJson.isNull = false then some value.toJson else record.value? name := by
      rw [← next]
      cases null : value.toJson.isNull <;> simp [Record.value?_put]
    refine ⟨rebuilt, ?_, same.trans names, ?_, ?_⟩
    · simp [putCells, put, added, bind, Except.bind]
    · intro later member
      rcases List.mem_cons.mp member with rfl | member
      · rw [others _ fresh, first, json]
        cases value.toJson.isNull <;> simp
      · have different : later.column ≠ field.column := fun same =>
          fresh (same ▸ List.mem_map_of_mem member)
        rw [values later member, first]
        simp [different]
    · intro name missing
      simp only [List.map_cons, List.mem_cons, not_or] at missing
      rw [others name missing.2, first]
      simp [missing.1]

theorem stored_eq {record : Record} {field : Field} {value : Value}
    (bound : Value.ofJson? field.kind ((record.value? field.column).getD .null) = some value) (other : field.kind ≠ .float) :
    (stored record field = (record.value? field.column).getD .null ↔
        ∀ n, record.value? field.column = some (.int n) → Word.fitsSigned n = true) ∧
      ((stored record field).isNull = true ↔ (record.value? field.column).getD .null = .null) := by
  have json : stored record field = value.toJson := by simp [stored, bound]
  obtain ⟨kept, null⟩ := Value.toJson_ofJson bound other
  rw [json]
  refine ⟨kept.trans ?_, null⟩
  cases record.value? field.column <;> simp

theorem holds_of_bound {metadata : Metadata} {record : Record} {fields : List Field} {values : List Value}
    {cells : List Cell} (bound : List.Forall₂ (fun field value => metadata.valueOf record field = .ok value) fields values)
    (returned : List.Forall₂ Cell.Returns values cells) : List.Forall₂ (metadata.Holds record) fields cells := by
  induction bound generalizing cells with
  | nil =>
    cases returned
    exact .nil
  | cons first _ ih =>
    cases returned with
    | cons here later => exact .cons ⟨_, first, here⟩ (ih later)

/-- What insertion binds for the columns of a record is what the record has been stored as. -/
theorem holds_of_inserted {database : Option String} {metadata : Metadata} {records : List Record} {table : TableRef}
    {names : List String} {rows : List (List Value)} {limits : List PagePlan}
    (inserted : Statement.insert database metadata records = .ok ⟨.insert table names rows, limits⟩) {index : Nat}
    {record : Record} (taken : records[index]? = some record) {values : List Value} (bound : rows[index]? = some values)
    {cells : List Cell} (returned : List.Forall₂ Cell.Returns values cells) :
    names = metadata.columns.map Field.column ∧ List.Forall₂ (metadata.Holds record) metadata.columns cells := by
  obtain ⟨found, _, _, each, _, same⟩ := Statement.insert_eq_ok.mp inserted
  cases same
  refine ⟨rfl, ?_⟩
  rw [Outcome.mapM_eq_ok] at each
  obtain ⟨within, rfl⟩ := List.getElem?_eq_some_iff.mp taken
  obtain ⟨inside, rfl⟩ := List.getElem?_eq_some_iff.mp bound
  have stored : metadata.valuesOf records[index] metadata.columns = .ok rows[index] := each.get within inside
  rw [valuesOf, Outcome.mapM_eq_ok] at stored
  exact holds_of_bound stored returned

theorem bound_of_holds {metadata : Metadata} {record : Record} {fields : List Field} {cells : List Cell}
    (holds : List.Forall₂ (metadata.Holds record) fields cells) {field : Field} (member : field ∈ fields) :
    ∃ value, Value.ofJson? field.kind ((record.value? field.column).getD .null) = some value := by
  induction holds with
  | nil => cases member
  | cons held _ ih =>
    rcases List.mem_cons.mp member with rfl | later
    · exact held.imp fun _ both => valueOf_eq_ok.mp both.1
    · exact ih later

/-- A column that the table lets be NULL is null in the default object. -/
theorem blank_of_nullable {metadata : Metadata} {field : Field}
    (nullable : (Statement.columnDef metadata field).required = false) :
    metadata.blank.value? field.column = some .null := by
  simp only [Statement.columnDef] at nullable
  split at nullable
  · assumption
  · cases nullable

/-- A stored object reads back. From the row that insertion has bound, as a database returns it, the default object becomes
a record that is handed to the model: its ignored fields are those of the default object, and every other field of no
float kind is as it was stored, unless it was an integer beyond the signed range. Null may be stored only where the table
allows it. -/
theorem stored_object_reads_back {database : Option String} {model : Model α} {metadata : Metadata}
    (described : model.metadata = .ok metadata) (distinct : metadata.blank.names.Nodup) {records : List Record}
    {table : TableRef} {names : List String} {rows : List (List Value)} {limits : List PagePlan}
    (inserted : Statement.insert database metadata records = .ok ⟨.insert table names rows, limits⟩) {index : Nat}
    {record : Record} (taken : records[index]? = some record) {values : List Value} (bound : rows[index]? = some values)
    (given : ∀ field ∈ metadata.columns, (record.value? field.column).getD .null = .null →
      (Statement.columnDef metadata field).required = false)
    {cells : List Cell} (returned : List.Forall₂ Cell.Returns values cells) :
    ∃ rebuilt, metadata.putRow metadata.blank (names.zip cells) = .ok rebuilt ∧
      metadata.decodeRow model (names.zip cells) = (model.decode (.fields rebuilt)).mapError .json ∧
      rebuilt.names = metadata.blank.names ∧
      (∀ field ∈ metadata.fields, field.ignored = true →
        rebuilt.value? field.column = metadata.blank.value? field.column) ∧
      ∀ field ∈ metadata.columns, field.kind ≠ .float →
        ((rebuilt.value? field.column).getD .null = (record.value? field.column).getD .null ↔
          ∀ n, record.value? field.column = some (.int n) → Word.fitsSigned n = true) := by
  have known := Described.of_model described distinct
  obtain ⟨rfl, holds⟩ := holds_of_inserted inserted taken bound returned
  obtain ⟨rebuilt, put, same, values, others⟩ :=
    putCells_stored known holds (fun _ member => member) known.nodup_columns metadata.blank rfl 0
  refine ⟨rebuilt, put, ?_, same, ?_, ?_⟩
  · have name : model.name = metadata.typeName := (Model.metadata_eq_ok described).1.symm
    have row : metadata.putRow metadata.blank ((metadata.columns.map Field.column).zip cells) = .ok rebuilt := put
    simp only [decodeRow, row, decode, checkModel, name, bind, Except.bind]
    cases model.decode (.fields rebuilt) <;> rfl
  · intro field member ignored
    refine others field.column fun listed => ?_
    obtain ⟨other, column, same⟩ := List.mem_map.mp listed
    rw [known.eq_of_column (mem_fields_of_columns column) member same] at column
    simp [columns, ignored] at column
  · intro field member other
    obtain ⟨value, bound⟩ := bound_of_holds holds member
    obtain ⟨kept, null⟩ := stored_eq bound other
    rw [values field member, ← kept]
    cases empty : (stored record field).isNull with
    | false => simp
    | true =>
      -- NULL keeps the default, which is null where the table takes NULL.
      have nothing := null.mp empty
      have default := blank_of_nullable (given field member nothing)
      have json : stored record field = .null := by
        cases same : stored record field with
        | null => rfl
        | _ => simp [same, Json.isNull] at empty
      simp [default, nothing, json]

end Metadata

/-- Tokens with an owner that may be missing and a field that is not stored. -/
def token : Model Json where
  name := "Token"
  table := "token"
  key := "token"
  ignored := ["cache"]
  kinds := [("owner", .text)]
  blank := .fields
    [("token", .text ""), ("owner", .null), ("active", .bool false), ("blob", .list []), ("cache", .text "")]
  encode := .ok
  decode := .ok

def tokenMetadata : Metadata where
  typeName := "Token"
  table := "token"
  fields := [⟨"token", .text, false, true, none⟩, ⟨"owner", .text, false, false, none⟩,
    ⟨"active", .bool, false, false, none⟩, ⟨"blob", .bytes, false, false, none⟩, ⟨"cache", .text, true, false, none⟩]
  keyColumn := "token"
  keyKind := .text
  mirrored := false
  blank := [("token", .text ""), ("owner", .null), ("active", .bool false), ("blob", .list []), ("cache", .text "")]

/-- A token without an owner, whose flag is returned as a number, reads back. -/
theorem token_reads_back :
    let record : Record := [("token", .text "t"), ("active", .bool true), ("blob", .list [.int 0, .int 255])]
    let row : Row := [("token", .text "t"), ("owner", .null), ("active", .int 1), ("blob", .blob [0, 255])]
    token.metadata = .ok tokenMetadata ∧
    (∃ table names values, Statement.insert none tokenMetadata [record] = .ok ⟨.insert table names [values], []⟩) ∧
    ∃ rebuilt : Record, tokenMetadata.decodeRow token row = (token.decode (.fields rebuilt)).mapError .json ∧
      rebuilt.value? "cache" = some (.text "") ∧ (rebuilt.value? "blob").getD .null = .list [.int 0, .int 255] := by
  intro record row
  have described : token.metadata = .ok tokenMetadata := rfl
  have inserted : Statement.insert none tokenMetadata [record] =
      .ok ⟨.insert ⟨none, "token"⟩ ["token", "owner", "active", "blob"] [[.text "t", .null, .bool true, .bytes [0, 255]]],
        []⟩ := rfl
  have given : ∀ field ∈ tokenMetadata.columns, (record.value? field.column).getD .null = .null →
      (Statement.columnDef tokenMetadata field).required = false := by
    intro field member nothing
    simp only [Metadata.columns, tokenMetadata, List.filter, Bool.not_false, Bool.not_true, List.mem_cons,
      List.not_mem_nil, or_false] at member
    obtain rfl | rfl | rfl | rfl := member
    · cases nothing
    · rfl
    · cases nothing
    · cases nothing
  have returned : List.Forall₂ Cell.Returns [.text "t", .null, .bool true, .bytes [0, 255]]
      [.text "t", .null, .int 1, .blob [0, 255]] :=
    .cons (.text _) (.cons .null (.cons (.number true) (.cons (.bytes _) .nil)))
  have first : [record][0]? = some record := rfl
  obtain ⟨rebuilt, _, decoded, _, ignored, same⟩ :=
    Metadata.stored_object_reads_back described (by decide) inserted first rfl given returned
  refine ⟨described, ⟨_, _, _, inserted⟩, rebuilt, decoded, ?_, ?_⟩
  · exact ignored ⟨"cache", .text, true, false, none⟩ (by simp [tokenMetadata]) rfl
  · exact (same ⟨"blob", .bytes, false, false, none⟩ (by simp [tokenMetadata, Metadata.columns]) (by decide)).mpr
      fun n impossible => by cases impossible

/-- Counters of unsigned integers. -/
def counterShape : Shape := [("id", .integer 0 Word.greatest "u64"), ("count", .integer 0 Word.greatest "u64")]

def counter : Model Json where
  name := "Counter"
  table := "counter"
  blank := .fields counterShape.blank
  encode := .ok
  decode := counterShape.decode

def counterMetadata : Metadata where
  typeName := "Counter"
  table := "counter"
  fields := [⟨"id", .int, false, true, none⟩, ⟨"count", .int, false, false, none⟩]
  keyColumn := "id"
  keyKind := .int
  mirrored := false
  blank := counterShape.blank

/-- A count just beyond the signed range is bound as the least integer, and the row cannot be read any more. -/
theorem unsigned_count_unreadable :
    let record : Record := [("id", .int 1), ("count", .int 9223372036854775808)]
    let values : List Value := [.int 1, .int (-9223372036854775808)]
    counter.metadata = .ok counterMetadata ∧ counter.decode (.fields record) = .ok (.fields record) ∧
    Statement.insert none counterMetadata [record] = .ok ⟨.insert ⟨none, "counter"⟩ ["id", "count"] [values], []⟩ ∧
    ∃ cells, List.Forall₂ Cell.Returns values cells ∧
      ∃ reason, counterMetadata.decodeRow counter (["id", "count"].zip cells) = .error (.json reason) :=
  ⟨rfl, rfl, rfl, [.int 1, .int (-9223372036854775808)], .cons (.int _) (.cons (.int _) .nil), _, rfl⟩

end RecordMapper
