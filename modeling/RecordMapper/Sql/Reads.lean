import RecordMapper.Sql.Writes
import RecordMapper.Text.Blank

/-! Statements that read rows: over one model's table, over joined tables with trusted expressions, and counts
of what such a read would return. -/

namespace RecordMapper

namespace Statement

/-- A column that a read may name. -/
def readable (metadata : Metadata) (name : String) : Outcome Item :=
  match metadata.field? name with
  | some field => .ok (.column field.column)
  | none => .error (.validation (.unknownColumn metadata.table name))

/-- The columns to read: those the condition names, or all. -/
def projection (metadata : Metadata) (condition : Condition) : Outcome (List Item) :=
  if condition.fields.isEmpty then .ok (metadata.columns.map fun field => .column field.column)
  else condition.fields.mapM (readable metadata)

/-- Reads one table's rows that match the condition. -/
def select (database : Option String) (metadata : Metadata) (condition : Condition) : Outcome Statement := do
  let filter ← condition.formulas
  let items ← projection metadata condition
  let table ← TableRef.make database metadata.table
  let groups ← condition.groupRefs
  let sorts ← condition.sortRefs
  return ⟨.select ⟨items, ⟨table, none, none⟩, filter, groups, sorts⟩, []⟩

/-- The joined table of a condition: one word, or two of which the second is the alias. -/
def joinedTable (database : Option String) (join : Join) : Outcome JoinedTable := do
  match Text.words join.table with
  | [] => throw (.validation .noJoinTable)
  | name :: rest =>
    let table ← TableRef.make database name
    let aliasName ← match rest with
      | [] => pure none
      | second :: _ => do
        checkedName (Name.check second)
        pure (some second)
    if 1 < rest.length then throw (.validation (.joinTableShape join.table))
    if Text.allBlank join.expression then throw (.validation .noJoinExpression)
    return ⟨join.kind, table, aliasName, join.expression⟩

/-- The source of a read over several tables. -/
def complexSource (database : Option String) (condition : Condition) : Outcome RowSource := do
  match condition.source with
  | none => throw (.validation .noFrom)
  | some source =>
    checkedName (Name.check source.aliasName)
    let table ← TableRef.make database source.table
    match condition.join with
    | none => return ⟨table, some source.aliasName, none⟩
    | some join => return ⟨table, some source.aliasName, some (← joinedTable database join)⟩

/-- Reads the condition's expressions over its own source. -/
def selectComplex (database : Option String) (condition : Condition) : Outcome Statement := do
  if condition.fields.isEmpty then throw (.validation .noProjection)
  let source ← complexSource database condition
  let filter ← condition.formulas
  let groups ← condition.groupRefs
  let sorts ← condition.sortRefs
  return ⟨.select ⟨condition.fields.map .expression, source, filter, groups, sorts⟩, []⟩

/-- The model's table, for a count that has no source of its own. -/
def countedTable (database : Option String) : Option Metadata → Outcome TableRef
  | some metadata => TableRef.make database metadata.table
  | none => .error (.validation .countUnbound)

/-- Counts the rows, or groups, that a read by the condition returns. -/
def count (database : Option String) (metadata : Option Metadata) (condition : Condition) : Outcome Statement := do
  let filter ← condition.formulas
  let groups ← condition.groupRefs
  if condition.isComplex then
    if condition.fields.isEmpty then throw (.validation .noProjection)
    let source ← complexSource database condition
    return ⟨.countResult ⟨condition.fields.map .expression, source, filter, groups, []⟩, []⟩
  else
    let table ← countedTable database metadata
    if groups.isEmpty then return ⟨.countRows ⟨table, none, none⟩ filter, []⟩
    return ⟨.countResult ⟨[.oneAs "_one"], ⟨table, none, none⟩, filter, groups, []⟩, []⟩

/-- Reads at most one row, to see whether there is any. -/
def exists? (database : Option String) (metadata : Metadata) (condition : Condition) : Outcome Statement := do
  let filter ← condition.formulas
  let table ← TableRef.make database metadata.table
  return ⟨.select ⟨[.one], ⟨table, none, none⟩, filter, [], []⟩, [⟨0, 1⟩]⟩

end Statement

end RecordMapper
