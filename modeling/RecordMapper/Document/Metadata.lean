import RecordMapper.Document.Tagged
import RecordMapper.Model
import RecordMapper.SecondStore
import RecordMapper.Document.Condition

/-! Documents of model metadata and of writes to a second store. -/

namespace RecordMapper

def Field.document (field : Field) : Json :=
  .fields [
    ("column", .text field.column),
    ("kind", .text field.kind.name),
    ("ignored", .bool field.ignored),
    ("primary_key", .bool field.isKey),
    ("capacity", .ofOption (fun (n : Nat) => .int n) field.capacity)]

def Metadata.document (metadata : Metadata) : Json :=
  .fields [
    ("type_name", .text metadata.typeName),
    ("table", .text metadata.table),
    ("mirrored", .bool metadata.mirrored),
    ("primary_key", .ofTexts [metadata.keyColumn, metadata.keyKind.name]),
    ("fields", .list (metadata.fields.map Field.document)),
    ("columns", .ofTexts (metadata.columns.map Field.column)),
    ("blank", Json.tagged (.fields metadata.blank))]

/-- Items written out, or only their number if there are more than a reader wants to see. -/
def shortened (greatest : Nat) (encode : α → Json) (items : List α) : Json :=
  if greatest < items.length then .fields [("count", .int items.length)] else .list (items.map encode)

/-- The kind of a write, its table and what it carried; of many records only their number. -/
def QueuedWrite.document (queued : QueuedWrite) : Json :=
  .list [
    .text queued.write.kind.title,
    .text queued.metadata.table,
    match queued.write with
    | .save records | .update records => shortened 20 (fun record => Json.tagged (.fields record)) records
    | .delete keys => .list (keys.map Value.tagged)
    | .updateWhere condition | .deleteWhere condition => condition.document]

end RecordMapper
