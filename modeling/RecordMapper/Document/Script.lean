import RecordMapper.Engine.Script
import RecordMapper.Json.Access

/-! Documents of scripts that a server answers from. -/

namespace RecordMapper

def ColumnType.ofWord : String → ColumnType
  | "int" => .integer
  | "int32" => .integer32
  | "int16" => .integer16
  | "double" => .double
  | "float32" => .single
  | "text" => .text
  | "blob" => .blob
  | "null" => .null
  | _ => .unknown

/-- The reply of a document, whose values are decoded by `value`. -/
def Reply.ofDocument (value : Json → Value) (json : Json) : Reply Answer :=
  if json.has "hang" then .silent
  else if json.has "err" then .refused (Script.refusal (json.get "err").asText)
  else if json.has "cols" then
    .done (.ofWire
      ((json.get "cols").items.map fun column => ((column.item 0).asText, .ofWord (column.item 1).asText))
      ((json.get "rows").items.map fun row => row.items.map value))
  else .done (.touched (json.get "ok").asWord)

/-- The reply to a command of a transaction. -/
def Reply.ofWord (json : Json) : Reply Unit :=
  match json.asText with
  | "err" => .refused (Script.refusal "refused")
  | "hang" => .silent
  | _ => .done ()

def Script.ofDocument (value : Json → Value) (json : Json) : Script where
  replies := (json.get "script").items.map (Reply.ofDocument value)
  onBegin := .ofWord (json.get "on_begin")
  onCommit := .ofWord (json.get "on_commit")
  onRollback := .ofWord (json.get "on_rollback")

end RecordMapper
