import RecordMapper.Model
import RecordMapper.Text.Utf8

/-! Rows as a database returns them, and how a row becomes an object: columns are matched to fields by name, and
each is read according to the field's kind. -/

namespace RecordMapper

/-- One column of a row. -/
inductive Cell where
  | null
  | int (n : Int64)
  | int32 (n : Int32)
  | int16 (n : Int16)
  | double (x : Double)
  | text (s : String)
  | blob (octets : List UInt8)
  | bool (b : Bool)
  /-- A float of 32 bits, which no kind reads. -/
  | single
  /-- A cell that cannot be taken over at all, with the reason; a row that has one cannot be fetched. -/
  | unreadable (reason : String)
  deriving DecidableEq

/-- Column names with their cells, in order. -/
abbrev Row := List (String × Cell)

/-- Why a row cannot be fetched, if it cannot. -/
def Row.fault? (row : Row) : Option String :=
  row.findSome? fun (_, cell) => match cell with
    | .unreadable reason => some reason
    | _ => none

namespace Cell

/-- A float in an integer column, if it stands for a signed integer of 64 bits. -/
def integral (x : Double) : Outcome Value :=
  match x.toInt? with
  | some n =>
    if Word.fitsSigned n then .ok (.int (Int64.ofInt n)) else .error (.validation (.fractionalInt x))
  | none => .error (.validation (.fractionalInt x))

/-- The name of a cell's type. -/
def typeName : Cell → String
  | .null | .unreadable _ => "NULL"
  | .int _ => "BIGINT"
  | .int32 _ => "INTEGER"
  | .int16 _ => "SMALLINT"
  | .double _ => "DOUBLE"
  | .text _ => "TEXT"
  | .blob _ => "BLOB"
  | .bool _ => "BOOLEAN"
  | .single => "REAL"

/-- The type that is tried last for a kind. -/
def lastTried : Kind → String
  | .int => "core::option::Option<f64>"
  | .float | .bool => "core::option::Option<i64>"
  | .text | .bytes => "core::option::Option<alloc::vec::Vec<u8>>"

def ticked (text : String) : String := let tick := String.singleton (Char.ofNat 96); tick ++ text ++ tick

/-- The text of the failure where a cell does not fit the kind that it is read as. -/
def misfit (index : Nat) (kind : Kind) (cell : Cell) : String :=
  "error occurred while decoding column " ++ toString index ++ ": mismatched types; Rust type " ++
    ticked (lastTried kind) ++ " is not compatible with SQL type " ++ ticked cell.typeName

/-- The integer in a cell, of whatever size. -/
def integer? : Cell → Option Int64
  | .int n => some n
  | .int32 n => some n.toInt64
  | .int16 n => some n.toInt64
  | _ => none

/-- The value of a cell in the column at an index and of a kind. Databases do not agree on the type of some columns,
so each kind takes the nearest other types as well. -/
def read (index : Nat) (kind : Kind) (cell : Cell) : Outcome Value :=
  match kind, cell, cell.integer? with
  | _, .null, _ => .ok .null
  | .int, _, some n => .ok (.int n)
  | .int, .double x, _ => integral x
  | .float, .double x, _ => .ok (.float x)
  | .float, _, some n => .ok (.float (Double.ofInt n.toInt))
  | .text, .text s, _ => .ok (.text s)
  | .text, .blob octets, _ => .ok (.text (Text.readLossily octets))
  | .bytes, .blob octets, _ => .ok (.bytes octets)
  | .bool, .bool b, _ => .ok (.bool b)
  | .bool, _, some n => .ok (.bool (n != 0))
  | _, _, _ => .error (.sql (misfit index kind cell))

end Cell

namespace Metadata

/-- Puts the column at an index of a row into a record. A column of no field is passed over, and NULL leaves the
value that is there. -/
def putCell (metadata : Metadata) (record : Record) (index : Nat) (column : String) (cell : Cell) :
    Outcome Record :=
  match metadata.field? column with
  | none => .ok record
  | some field => do
    let json := (← cell.read index field.kind).toJson
    return if json.isNull then record else record.put field.column json

/-- Puts columns of a row into a record, in order, the first of them being the one at the index. -/
def putCells (metadata : Metadata) (record : Record) (index : Nat) : Row → Outcome Record
  | [] => .ok record
  | (column, cell) :: rest => do
    let record ← metadata.putCell record index column cell
    metadata.putCells record (index + 1) rest

/-- Puts the columns of a row into a record. -/
def putRow (metadata : Metadata) (record : Record) (row : Row) : Outcome Record := metadata.putCells record 0 row

/-- The object of a row: the default one with the row's columns put in. -/
def decodeRow (metadata : Metadata) (model : Model α) (row : Row) : Outcome α := do
  metadata.decode model (← metadata.putRow metadata.blank row)

end Metadata

end RecordMapper
