import RecordMapper.Relational.Expression.Reader
import RecordMapper.Relational.Raw.Command

/-! Reading statements. -/

namespace RecordMapper

namespace RawCommand

open Reading

/-- An alias after its keyword. -/
def readAlias : Reading (Option String) := after ["AS"] nameOrString

def readFilter : Reading (Option Expression) := after ["WHERE"] Reader.expression

/-- The columns that are answered of rows that have been written. -/
def readReturned : Reading (List ResultColumn) := do return (← after ["RETURNING"] Reader.columns).getD []

/-- New data for a column, or for several in brackets. -/
def readAssignment : Reading (List (String × Expression)) := do
  let columns ← if ← seesMark "(" then bracketed nameOrString else (fun name => [name]) <$> nameOrString
  expectMark "="
  let value ← Reader.expression
  let data := match columns, value with
    | [_], value => [value]
    | _, .row items => items
    | _, value => [value]
  if columns.length = data.length then return columns.zip data
  else fail (toString columns.length ++ " columns assigned " ++ toString data.length ++ " values")

/-- What follows SET. -/
def readChange : Reading Change := do
  let columns ← items readAssignment
  return ⟨columns.flatten, ← readFilter⟩

/-- What a write is to do with conflicts. -/
def readConflict : Reading Conflict := do
  if ← pass "OR" then
    if ← pass "IGNORE" then return .skip
    if ← pass "REPLACE" then return .replace
    if ← pass "ABORT" then return .refuse
    if ← pass "FAIL" then return .refuse
    expect "ROLLBACK"
    return .refuse
  else return .refuse

/-- What follows ON CONFLICT. -/
def readUpsert : Reading Upsert := do
  let target ← if ← seesMark "(" then some <$> bracketed nameOrString else pure none
  expect "DO"
  if ← pass "NOTHING" then return ⟨target, none⟩
  expect "UPDATE"
  expect "SET"
  return ⟨target, some (← readChange)⟩

/-- Upserts in a row, of which only the last may name no columns. -/
def readUpserts : Nat → Reading (List Upsert)
  | 0 => return []
  | fuel + 1 => do
    if ← passAll ["ON", "CONFLICT"] then
      let first ← readUpsert
      if first.target.isNone then return [first]
      return first :: (← readUpserts fuel)
    else return []

/-- Whether a query ends with where its rows come from, so that ON would still belong to that. -/
def endsInOrigin (query : Compound) : Bool :=
  let select := (query.additions.getLast?.map Addition.select).getD query.first
  select.origin.isSome && select.filter.isNone && select.groups.isEmpty && select.having.isNone &&
    select.windows.isEmpty && query.sorts.isEmpty && query.limit.isNone

/-- What follows the word for an insertion. -/
def readInto (conflict : Conflict) : Reading RawCommand := do
  expect "INTO"
  let table ← Reader.readTable
  let aliasName ← readAlias
  let columns ← if ← seesMark "(" then some <$> bracketed nameOrString else pure none
  if columns.isNone && (← passAll ["DEFAULT", "VALUES"]) then
    return .insert conflict ⟨table, aliasName, ← readReturned⟩ (some []) { first := { columns := [] } } []
  let rows ← Reader.query
  if endsInOrigin rows && (← sees "ON") then refuse
  let upserts ← readUpserts (← get).length
  return .insert conflict ⟨table, aliasName, ← readReturned⟩ columns rows upserts

def readDelete : Reading RawCommand := do
  expect "FROM"
  let table ← Reader.readTable
  let aliasName ← readAlias
  let filter ← readFilter
  return .delete ⟨table, aliasName, ← readReturned⟩ filter

def readUpdate : Reading RawCommand := do
  let conflict ← readConflict
  let table ← Reader.readTable
  let aliasName ← readAlias
  expect "SET"
  let change ← readChange
  return .update conflict ⟨table, aliasName, ← readReturned⟩ change

/-- The kind of column that a type makes. -/
def kindOf : Affinity → Kind
  | .text => .text
  | .real => .float
  | .none | .blob => .bytes
  | .numeric | .integer => .int

/-- A column with its type and the two rules that it can have. -/
def readColumn : Reading ColumnDef := do
  let name ← nameOrString
  let type ← Reader.readType
  let isKey ← passAll ["PRIMARY", "KEY"]
  let required ← passAll ["NOT", "NULL"]
  return ⟨name, kindOf (Affinity.ofTypeName type), none, isKey, required⟩

def readCreate : Reading RawCommand := do
  expect "TABLE"
  let isCareful ← passAll ["IF", "NOT", "EXISTS"]
  let table ← Reader.readTable
  return .createTable (!isCareful) table (← bracketed readColumn)

def readDrop : Reading RawCommand := do
  expect "TABLE"
  let isCareful ← passAll ["IF", "EXISTS"]
  return .dropTable (!isCareful) (← Reader.readTable)

/-- The value of a setting: a number with a sign, or a word. -/
def readSettingValue : Reading Unit := do
  match ← get with
  | .datum .. :: _ | .word _ :: _ | .string _ :: _ | .quoted _ :: _ | .bracketed .. :: _ => skip
  | _ => Reader.readSigned

def readSetting : Reading RawCommand := do
  let named ← Reader.readTable
  if ← passMark "=" then readSettingValue
  else if ← passMark "(" then
    readSettingValue
    expectMark ")"
  return .setting named.database

/-- A statement. -/
def read : Reading RawCommand := do
  if ← pass "INSERT" then
    let conflict ← readConflict
    readInto conflict
  else if ← pass "REPLACE" then readInto .replace
  else if ← pass "DELETE" then readDelete
  else if ← pass "UPDATE" then readUpdate
  else if ← pass "CREATE" then readCreate
  else if ← pass "DROP" then readDrop
  else if ← pass "PRAGMA" then readSetting
  else .query <$> Reader.query

/-- Tokens up to a semicolon, as one statement. -/
def ofTokens (tokens : List Token) : Except Fault RawCommand :=
  match Reading.all read tokens with
  | .ok command => if Fault.greatestHeight < command.height then .error .tooHigh else .ok command
  | .error found => .error found.fault

end RawCommand

end RecordMapper
