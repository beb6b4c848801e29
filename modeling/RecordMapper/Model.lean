import RecordMapper.Value

/-! Models: plain data types that map to one table, and the metadata that describes one to the statement
builders. Metadata is made from the fields of the model's default object. -/

namespace RecordMapper

/-- A type of objects with the table it maps to. A model is known by its name. -/
structure Model (α : Type) where
  name : String
  table : String
  /-- The primary key's column. -/
  key : String := "id"
  /-- Fields that are neither read from the table nor written to it. -/
  ignored : List String := []
  /-- Kinds of columns whose default value does not tell it. The first entry of a name counts. -/
  kinds : List (String × Kind) := []
  /-- Capacities of columns. The first entry of a name counts. -/
  capacities : List (String × Nat) := []
  /-- Committed writes are repeated in the second store. -/
  mirrored : Bool := false
  blank : α
  /-- The object as JSON, or why it has no such form. -/
  encode : α → Except String Json
  /-- The object of a JSON value, or why there is none. -/
  decode : Json → Except String α

/-- A field of a model's records; its name is the column's too. -/
structure Field where
  column : String
  kind : Kind
  ignored : Bool
  isKey : Bool
  capacity : Option Nat
  deriving DecidableEq

structure Metadata where
  typeName : String
  table : String
  /-- Fields in the order of the default object. -/
  fields : List Field
  keyColumn : String
  keyKind : Kind
  mirrored : Bool
  /-- The default object's fields. -/
  blank : Record

/-- The value of the first entry with the given name. -/
def firstNamed? (name : String) : List (String × α) → Option α
  | [] => none
  | (key, value) :: rest => if key = name then some value else firstNamed? name rest

namespace Model

/-- Describes one field by its name and default value. -/
def describe (model : Model α) (column : String) (default : Json) : Outcome Field :=
  let ignored := model.ignored.contains column
  match if ignored then .ok () else Name.check column with
  | .error fault => .error (.registration (.badName model.name fault))
  | .ok () =>
    match (firstNamed? column model.kinds).or (Kind.infer default) with
    | some kind => .ok ⟨column, kind, ignored, column = model.key, firstNamed? column model.capacities⟩
    | none =>
      if ignored then .ok ⟨column, .text, ignored, column = model.key, firstNamed? column model.capacities⟩
      else .error (.registration (.noKind model.name column))

def describeAll (model : Model α) : Record → Outcome (List Field)
  | [] => .ok []
  | (column, default) :: rest => do
    let field ← model.describe column default
    return field :: (← model.describeAll rest)

/-- The greatest generated key, as a key column of the kind holds it. -/
def widestKey : Kind → Json
  | .int => .int Word.greatestSigned
  | _ => .text (toString Word.greatestSigned)

/-- The key among described fields, if it is one that generated keys fit. -/
def checkedKey (model : Model α) (fields : List Field) : Outcome Field :=
  match fields.find? Field.isKey with
  | none => .error (.registration (.keyMissing model.name model.key))
  | some field =>
    if field.ignored then .error (.registration (.keyIgnored model.name field.column))
    else if field.kind = .int ∨ field.kind = .text then .ok field
    else .error (.registration (.keyKind model.name field.column field.kind))

/-- Describes a model. The default object has to take the widest key. -/
def metadata (model : Model α) : Outcome Metadata :=
  match Name.check model.table with
  | .error fault => .error (.registration (.badName model.name fault))
  | .ok () =>
    match model.encode model.blank with
    | .error reason => .error (.json reason)
    | .ok (.fields blank) => do
      let fields ← model.describeAll blank
      let key ← model.checkedKey fields
      match model.decode (.fields (Record.put key.column (widestKey key.kind) blank)) with
      | .error reason => .error (.registration (.keyTooNarrow model.name key.column reason))
      | .ok _ => .ok ⟨model.name, model.table, fields, key.column, key.kind, model.mirrored, blank⟩
    | .ok _ => .error (.registration (.notAStruct model.name))

end Model

namespace Metadata

/-- Columns that take part in statements, in order. -/
def columns (metadata : Metadata) : List Field := metadata.fields.filter fun field => !field.ignored

/-- Columns besides the primary key. -/
def dataColumns (metadata : Metadata) : List Field := metadata.columns.filter fun field => !field.isKey

def field? (metadata : Metadata) (column : String) : Option Field :=
  metadata.columns.find? fun field => field.column = column

def checkModel (metadata : Metadata) (model : Model α) : Outcome Unit :=
  if model.name = metadata.typeName then .ok ()
  else .error (.validation (.foreignModel metadata.typeName model.name))

/-- The record of an object. -/
def encode (metadata : Metadata) (model : Model α) (object : α) : Outcome Record := do
  metadata.checkModel model
  match model.encode object with
  | .ok (.fields record) => return record
  | .ok _ => throw (.validation (.notAStruct metadata.typeName))
  | .error reason => throw (.json reason)

/-- The object of a record. -/
def decode (metadata : Metadata) (model : Model α) (record : Record) : Outcome α := do
  metadata.checkModel model
  match model.decode (.fields record) with
  | .ok object => return object
  | .error reason => throw (.json reason)

/-- The value to bind for a column of a record. A missing field counts as null. -/
def valueOf (metadata : Metadata) (record : Record) (field : Field) : Outcome Value :=
  let json := (record.value? field.column).getD .null
  match Value.ofJson? field.kind json with
  | some value => .ok value
  | none => .error (.validation (.inColumn metadata.table field.column (.kindMismatch field.kind json)))

/-- The values to bind for several columns of a record, in order. -/
def valuesOf (metadata : Metadata) (record : Record) (fields : List Field) : Outcome (List Value) :=
  fields.mapM (metadata.valueOf record)

/-- The primary key of a record. -/
def keyOf (metadata : Metadata) (record : Record) : Outcome Value :=
  Value.ofJson metadata.keyKind ((record.value? metadata.keyColumn).getD .null)

def setKey (metadata : Metadata) (record : Record) (key : Value) : Record :=
  Record.put metadata.keyColumn key.toJson record

end Metadata

end RecordMapper
