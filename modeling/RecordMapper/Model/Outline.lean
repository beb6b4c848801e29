import RecordMapper.Model
import RecordMapper.Text.Outline

/-! One-line descriptions of model metadata. -/

namespace RecordMapper

open Text

def Field.outline (field : Field) : Outline :=
  .group "FieldDescriptor" [
    ("column", .text field.column),
    ("kind", .word field.kind.title),
    ("ignored", .flag field.ignored),
    ("primary_key", .flag field.isKey),
    ("capacity", .optional .number field.capacity)]

def Metadata.outline (metadata : Metadata) : Outline :=
  .group "ModelMetadata" [
    ("type_name", .text metadata.typeName),
    ("table", .text metadata.table),
    ("fields", .items (metadata.fields.map Field.outline)),
    ("primary_key", .group "PrimaryKey" [
      ("column", .text metadata.keyColumn),
      ("kind", .word metadata.keyKind.title)]),
    ("mirrored", .flag metadata.mirrored)]

end RecordMapper
