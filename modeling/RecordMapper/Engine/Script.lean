import RecordMapper.Work.Basic

/-! A server that answers from a script: replies to statements in order, and replies to the three commands of
transactions. -/

namespace RecordMapper

/-- The type of a column as a server announces it. -/
inductive ColumnType where
  | integer
  | integer32
  | integer16
  | double
  | single
  | text
  | blob
  | null
  /-- A type that is not known. -/
  | unknown
  deriving DecidableEq

/-- The text of the failure to take over a column of a type that is not known. -/
def unknownType : String :=
  "error in Any driver mapping: Any driver does not support MySql type " ++
    "MySqlTypeInfo \x7b type: Tiny, flags: ColumnFlags(0x0), max_size: Some(255) \x7d"

/-- The cell that a value becomes in a column of a type. -/
def Cell.ofWire : ColumnType → Value → Cell
  | .unknown, _ => .unreadable unknownType
  | _, .null => .null
  | .integer, .int n => .int n
  | .integer, .bool b => .int (if b then 1 else 0)
  | .integer32, .int n => .int32 n.toInt32
  | .integer16, .int n => .int16 n.toInt16
  | .double, .float x => .double x
  | .double, .int n => .double (Double.ofInt n.toInt)
  | .single, .float _ => .single
  | .text, .text s => .text s
  | .text, .bytes octets =>
    match Text.decode octets with
    | .ok s => .text s
    | .error fault => .unreadable ("error occurred while decoding: " ++ fault.message)
  | .blob, .bytes octets => .blob octets
  | .blob, .text s => .blob s.toUTF8.toList
  | .null, _ => .null
  | _, _ => .unreadable unknownType

/-- What a server answers to a statement. -/
inductive Answer where
  | touched (count : UInt64)
  | rows (rows : List Row)

/-- Rows of typed columns. -/
def Answer.ofWire (columns : List (String × ColumnType)) (rows : List (List Value)) : Answer :=
  .rows (rows.map fun values =>
    (columns.zip values).map fun ((name, type), value) => (name, .ofWire type value))

/-- The replies that are left. When there is none for a statement, it touches nothing. -/
structure Script where
  replies : List (Reply Answer) := []
  onBegin : Reply Unit := .done ()
  onCommit : Reply Unit := .done ()
  onRollback : Reply Unit := .done ()

namespace Script

/-- The text of the failure that a server answers with a text. -/
def refusal (text : String) : String := "error returned from database: 1064 (42000): " ++ text

/-- The reply to the next statement, and the script after it. -/
def next (script : Script) : Reply Answer × Script :=
  match script.replies with
  | [] => (.done (.touched 0), script)
  | reply :: rest => (reply, { script with replies := rest })

end Script

namespace Answer

/-- The rows touched by a statement that is run for its effect. Rows that come back are passed over, but have to
be readable. -/
def toTouched : Answer → Reply UInt64
  | .touched count => .done count
  | .rows found =>
    match found.findSome? Row.fault? with
    | none => .done 0
    | some reason => .refused reason

def toRows : Answer → List Row
  | .touched _ => []
  | .rows found => found

end Answer

end RecordMapper
