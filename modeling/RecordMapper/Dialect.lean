import RecordMapper.Failure
import RecordMapper.Text.Quoted

/-! What differs between databases in the text of SQL: quotation, placeholders, limits and column types, and
whether a paged read has to know the total first. -/

namespace RecordMapper

structure Dialect where
  name : String
  /-- A table or column name as SQL text. -/
  quote : String → String
  /-- The placeholder of a parameter, counted from one. -/
  placeholder : Nat → String
  /-- Paged reads count the matching rows first. -/
  countsFirst : Bool
  /-- Most parameters that one statement may bind. -/
  maxParams : Nat
  /-- Skips some rows, the first number, and keeps at most as many as the second; starts with a blank. -/
  limitClause : Nat → Nat → String
  /-- The type of a column of a kind, with its capacity if it has one. -/
  columnType : Kind → Option Nat → String

namespace Dialect

/-- Quotes a key part by part. -/
def quoteKey (dialect : Dialect) (key : String) : String :=
  String.intercalate "." ((key.toList.splitOn '.').map fun part => dialect.quote (String.ofList part))

/-- A type name with the capacity in brackets, or another name without one. -/
def sized (withCapacity without : String) : Option Nat → String
  | some capacity => withCapacity ++ "(" ++ toString capacity ++ ")"
  | none => without

def mysql : Dialect where
  name := "MySQL"
  quote := Text.enclose (Char.ofNat 96)
  placeholder _ := "?"
  countsFirst := true
  maxParams := 65535
  limitClause offset count := " LIMIT " ++ toString offset ++ ", " ++ toString count
  columnType
    | .int, _ => "BIGINT"
    | .float, _ => "DOUBLE"
    | .text, capacity => sized "VARCHAR" "TEXT" capacity
    | .bytes, capacity => sized "VARBINARY" "BLOB" capacity
    | .bool, _ => "TINYINT(1)"

def sqlite : Dialect where
  name := "SQLite"
  quote := Text.enclose '"'
  placeholder _ := "?"
  countsFirst := false
  maxParams := 32766
  limitClause offset count := " LIMIT " ++ toString count ++ " OFFSET " ++ toString offset
  columnType
    | .int, _ => "INTEGER"
    | .bool, _ => "INTEGER"
    | .float, _ => "REAL"
    | .text, _ => "TEXT"
    | .bytes, _ => "BLOB"

/-- A dialect whose placeholders carry their number and whose quotation leaves the inside alone. -/
def numbered (maxParams : Nat) : Dialect where
  name := "Numbered"
  quote name := "[" ++ name ++ "]"
  placeholder index := "$" ++ toString index
  countsFirst := true
  maxParams := maxParams
  limitClause offset count := " SKIP " ++ toString offset ++ " TAKE " ++ toString count
  columnType
    | kind, some capacity => kind.name ++ "<" ++ toString capacity ++ ">"
    | kind, none => kind.name

/-- A dialect by its word; the numbered one has its greatest number of parameters after a colon. -/
def ofWord? (word : String) : Option Dialect :=
  match word.toList.splitOn ':' with
  | [first] =>
    if first = "mysql".toList then some mysql else if first = "sqlite".toList then some sqlite else none
  | [first, last] => if first = "numbered".toList then (String.ofList last).toNat?.map numbered else none
  | _ => none

/-- The part of a URL before its first colon, in lower case. -/
def scheme (url : String) : String := String.ofList ((url.toList.takeWhile (· ≠ ':')).map Char.toLower)

/-- The dialect of the database that a URL leads to. -/
def ofUrl (url : String) : Outcome Dialect :=
  if scheme url = "mysql" then .ok mysql
  else if scheme url = "sqlite" then .ok sqlite
  else .error (.connection ("unsupported database scheme '" ++ scheme url ++ "'"))

end Dialect

end RecordMapper
