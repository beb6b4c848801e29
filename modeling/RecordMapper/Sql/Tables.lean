import RecordMapper.Sql.Writes

/-! Statements that make and drop a model's table. A column is nullable iff the default object has null in it. -/

namespace RecordMapper

namespace Statement

/-- Capacity of a text key that gives none. -/
def defaultKeyCapacity : Nat := 255

def columnDef (metadata : Metadata) (field : Field) : ColumnDef :=
  let capacity :=
    if field.isKey ∧ field.kind = .text ∧ field.capacity.isNone then some defaultKeyCapacity else field.capacity
  let nullable := match metadata.blank.value? field.column with
    | some .null => true
    | _ => false
  ⟨field.column, field.kind, capacity, field.isKey, !nullable⟩

def createTable (database : Option String) (metadata : Metadata) : Outcome Statement := do
  let table ← TableRef.make database metadata.table
  return ⟨.createTable table (metadata.columns.map (columnDef metadata)), []⟩

def dropTable (database : Option String) (metadata : Metadata) : Outcome Statement := do
  let table ← TableRef.make database metadata.table
  return ⟨.dropTable table, []⟩

end Statement

end RecordMapper
