import RecordMapper.Relational.Database
import RecordMapper.Relational.Raw.Reader

/-! Statements given as text, several of them with semicolons between, with parameters where their placeholders
stand. A text of nothing but blanks does nothing. -/

namespace RecordMapper

/-- The rows besides one, which its number tells. -/
def Table.others (table : Table) (tuple : Tuple) (rows : List Tuple) : List Tuple :=
  let number := table.rowKey.name
  rows.filter fun row => (row.get number).order (tuple.get number) ≠ .eq

namespace Target

/-- What a statement reads of the table that it writes to, by the name that the table has in it. -/
def scope (target : Target) (table : Table) : Scope :=
  [{ header := table.headings (target.aliasName.getD table.name) }]

/-- Refuses to answer what a row of the table has not, by its own name. -/
def checkReturned (target : Target) (tables : Tables) (table : Table) : Except Fault Unit := do
  let owned := target.returned.any fun column => match column with
    | .allOf _ => true
    | _ => false
  if owned then Fault.refuse "RETURNING may not use \"TABLE.*\" wildcards"
  let scope : Scope := [{ header := table.headings table.name }]
  discard ((ResultColumn.allMeanings { tables, scope } target.returned).run [])

end Target

namespace RawCommand

/-- The term of an expression that is a single datum. -/
def termOf (around : Around) (expression : Expression) : Except Fault Term := do
  let (meaning, _) ← (expression.meaning around).run []
  return (← meaning.single).term

/-- A change once its names are known. -/
structure FoundChange where
  names : List String
  terms : List Term
  filter : Option Term

/-- What a change of a table means. -/
def FoundChange.ofChange (around : Around) (table : Table) (change : Change) : Except Fault FoundChange := do
  let names ← table.ownNames Table.noColumn (change.columns.map Prod.fst)
  let terms ← (change.columns.map Prod.snd).mapM (termOf around)
  return ⟨names, terms, ← change.filter.mapM (termOf around)⟩

/-- The rows at hand: one, and those around it. -/
def seats (outer : List Tuple) (tuple : Tuple) : List Seat :=
  (outer ++ [tuple]).map fun tuple => { row := tuple.map Prod.snd }

namespace FoundChange

/-- Whether a change is for a row; before it stand the rows around it. -/
def passes (change : FoundChange) (outer : List Tuple) (tuple : Tuple) : Except Fault Bool :=
  Term.holds (seats outer tuple) change.filter

/-- A row as it is to become. -/
def changed (change : FoundChange) (outer : List Tuple) (table : Table) (tuple : Tuple) : Except Fault Tuple := do
  let data ← Term.values (seats outer tuple) change.terms
  return table.assign (change.names.zip (data.map Datum.plain)) tuple

end FoundChange

/-- Adds a row that clashes with none of those given. -/
def addFree (conflict : Conflict) (table : Table) (rows : List Tuple) (new : Tuple) : Except Fault (Nat × Table) :=
  match table.withRows (rows ++ [new]), conflict with
  | .ok changed, _ => .ok (1, changed)
  | .error _, .skip => .ok (0, table)
  | .error fault, _ => .error fault

/-- An insertion once its names are known: with each upsert goes the column that it is asked for. -/
structure Insertion where
  conflict : Conflict
  columns : List String
  upserts : List (Option String × Option FoundChange)

/-- What is done with the row that is in the way of another in one column. -/
def Insertion.upsert? (insertion : Insertion) (column : String) : Option (Option FoundChange) :=
  (insertion.upserts.find? fun upsert => upsert.1.all (· = column)).map Prod.snd

/-- Changes a row for one that it is in the way of, which is known as it is given. -/
def changeFor (new old : Tuple) (change : FoundChange) (table : Table) : Except Fault (Nat × Table) := do
  if ← change.passes [new] old then
    let changed ← change.changed [new] table old
    return (1, ← table.withRows (changed :: table.others old table.rows))
  else return (0, table)

/-- Adds a row to a table, if its rules or what is done with conflicts allow it. -/
def addRow (insertion : Insertion) (table : Table) (data : List Datum) : Except Fault (Nat × Table) := do
  let new ← Table.givenKey table.rows table.rowKey.name (table.tupleOf insertion.columns data)
  let clashes := table.rows.filterMap fun row => (table.clash? new row).map fun column => (column, row)
  let free := table.rows.filter fun row => (table.clash? new row).isNone
  let (count, added) ← addFree insertion.conflict table free new
  match clashes with
  | [] => return (count, added)
  | (column, old) :: _ =>
    if count = 0 then return (0, table)
    match insertion.upsert? column, insertion.conflict with
    | some none, _ => return (0, table)
    | some (some change), _ => changeFor (table.givenOf insertion.columns data new) old change table
    | none, .refuse => throw (table.sharing column)
    | none, .skip => return (0, table)
    | none, .replace => return (1, added)

/-- Adds rows one after the other. What is done with conflicts is found out anew for each, until it is done. -/
def addRows (find : Table → Except Fault Insertion) :
    Option Insertion → Table → List (List Datum) → Except Fault (Nat × Table)
  | _, table, [] => .ok (0, table)
  | found, table, data :: rest => do
    let insertion ← match found with
      | some insertion => pure insertion
      | none => find table
    let (first, changed) ← addRow insertion table data
    let found := if first = 1 && changed.rows.length = table.rows.length then some insertion else found
    let (others, changed) ← addRows find found changed rest
    return (first + others, changed)

/-- The column that an upsert is asked for: one whose data rows do not share. -/
def upsertColumn (table : Table) : Option (List String) → Except Fault (Option String)
  | none => .ok none
  | some names => do
    let unmatched := "ON CONFLICT clause does not match any PRIMARY KEY or UNIQUE constraint"
    match ← table.ownNames Table.noColumn names with
    | [name] => if table.uniqueNames.contains name then return some name else Fault.refuse unmatched
    | _ => Fault.refuse unmatched

/-- That rows have another number of data than columns are given. -/
def wrongCount (table : Table) (columns : Option (List String)) (count : Nat) : Fault :=
  match columns with
  | some names => toString count ++ " values for " ++ toString names.length ++ " columns"
  | none =>
    "table " ++ table.name ++ " has " ++ toString table.columns.length ++ " columns but " ++ toString count ++
      " values were supplied"

/-- Inserts the rows of a query in order. A new row is called `excluded` in the change of the one that it clashes
with. What is to be done where two rows have one number does not count if no numbers are given. -/
def insertInto (tables : Tables) (conflict : Conflict) (target : Target) (columns : Option (List String))
    (rows : Compound) (upserts : List Upsert) (table : Table) : Except Fault (Nat × Table) := do
  let names ← table.ownNames table.notNamed (columns.getD (table.columns.map ColumnDef.name))
  let prepared ← rows.prepare { tables }
  if prepared.senses.length ≠ names.length then throw (wrongCount table columns prepared.senses.length)
  let find (table : Table) : Except Fault Insertion := do
    let header := (table.headings "excluded").map fun heading => { heading with sense := {} }
    let around : Around := { tables := Database.replace tables table, scope := { header } :: target.scope table }
    let upserts ← upserts.mapM fun upsert => do
      let column ← upsertColumn table upsert.target
      if column.any fun column => column = table.rowKey.name && !names.contains column then return (column, none)
      else return (column, ← upsert.change.mapM (FoundChange.ofChange around table))
    return ⟨conflict, names, upserts⟩
  discard (find table)
  target.checkReturned tables table
  let data ← prepared.plan.run [] none
  addRows find none table (data.map fun row => row.map Datum.plain)

def deleteFrom (tables : Tables) (target : Target) (filter : Option Expression) (table : Table) :
    Except Fault (Nat × Table) := do
  let change ← FoundChange.ofChange { tables, scope := target.scope table } table ⟨[], filter⟩
  target.checkReturned tables table
  let kept ← table.rows.filterM fun tuple => return !(← change.passes [] tuple)
  return (table.rows.length - kept.length, { table with rows := kept })

/-- Changes one of the rows, if its rules or what is done with conflicts allow it. -/
def changeRow (conflict : Conflict) (change : FoundChange) (table : Table) (rows : List Tuple) (tuple : Tuple) :
    Except Fault (Nat × List Tuple) := do
  let changed ← change.changed [] table tuple
  let others := table.others tuple rows
  if !Table.isInt (changed.get table.rowKey.name) then throw .mismatch
  match others.findSome? (table.clash? changed), table.checkRequired [changed], conflict with
  | none, .ok (), _ => return (1, changed :: others)
  | _, _, .skip => return (0, rows)
  | _, .error fault, _ => throw fault
  | some column, _, .refuse => throw (table.sharing column)
  | some _, _, .replace => return (1, changed :: others.filter fun row => (table.clash? changed row).isNone)

/-- Changes rows one after the other, each as it is by then, and counts them. One that has been removed is passed
over. -/
def changeRows (conflict : Conflict) (change : FoundChange) (table : Table) :
    List Datum → List Tuple → Except Fault (Nat × List Tuple)
  | [], rows => .ok (0, rows)
  | number :: rest, rows => do
    let (first, rows) ← match rows.find? fun row => (row.get table.rowKey.name).order number = .eq with
      | some tuple => changeRow conflict change table rows tuple
      | none => pure (0, rows)
    let (others, rows) ← changeRows conflict change table rest rows
    return (first + others, rows)

def updateIn (tables : Tables) (conflict : Conflict) (target : Target) (change : Change) (table : Table) :
    Except Fault (Nat × Table) := do
  let change ← FoundChange.ofChange { tables, scope := target.scope table } table change
  target.checkReturned tables table
  let chosen ← table.rows.filterM (change.passes [])
  let (count, rows) ← changeRows conflict change table (chosen.map (Tuple.get table.rowKey.name)) table.rows
  return (count, ← table.withRows rows)

/-- The rows of a query. -/
def answer (tables : Tables) (query : Compound) : Except Fault (List Row) := do
  let prepared ← query.prepare { tables }
  let results ← prepared.plan.run [] none
  return results.map fun data => prepared.names.zip (data.map Datum.toCell)

def run (tables : Tables) : RawCommand → Except Fault (Database.Answer × Tables)
  | .insert conflict target columns rows upserts =>
    Database.onTable tables target.table (insertInto tables conflict target columns rows upserts)
  | .delete target filter => Database.onTable tables target.table (deleteFrom tables target filter)
  | .update conflict target change => Database.onTable tables target.table (updateIn tables conflict target change)
  | .query rows => return (.rows (← answer tables rows), tables)
  | .createTable sure table columns =>
    if sure && Tables.knows table && (tables.named? table.name).isSome then
      Fault.refuse ("table " ++ table.name ++ " already exists")
    else Database.createTable tables table columns
  | .dropTable sure table => do
    if sure then discard (tables.find table)
    return Database.dropTable tables table
  | .setting database =>
    if Tables.knows ⟨database, ""⟩ then .ok (.done, tables)
    else Fault.refuse ("unknown database " ++ database.getD "")

end RawCommand

/-- What statements have done together. -/
structure Effect where
  touched : Nat := 0
  rows : List Row := []

namespace Database

/-- Runs a statement that has been read, with what it has done. -/
def runTokens (tokens : List Token) (database : Database) : Except Fault (Effect × Database) := do
  let command ← RawCommand.ofTokens tokens
  let (answer, tables) ← command.run database.tables
  let database ← database.after answer tables
  let rows := match answer with
    | .rows rows => rows
    | _ => []
  return (⟨database.touched, rows⟩, database)

/-- Runs statements one after the other, with values for their placeholders of which so many have been used. Those
before one that fails have been run; the rows that each has touched are added up. -/
def runAll (values : List Datum) : Nat → List (List Token) → Database → Except Fault Effect × Database
  | _, [], database => (.ok {}, database)
  | used, tokens :: rest, database =>
    let (tokens, used) := Token.bound values used tokens
    match runTokens tokens database with
    | .error fault => (.error fault, database)
    | .ok (first, database) =>
      let (others, after) := runAll values used rest database
      (others.map fun others => ⟨first.touched + others.touched, first.rows ++ others.rows⟩, after)

/-- Runs a text with its parameters. -/
def runText (text : String) (params : List Value) (database : Database) : Except Fault Effect × Database :=
  let statements := ((Token.ofText text).splitOn (.mark ";")).filter fun statement => !statement.isEmpty
  runAll (params.map .ofValue) 0 statements database

/-- Runs a command and cuts what it answers. -/
def runCut (statement : Statement) (database : Database) : Except Fault (Answer × Database) := do
  let (answer, tables) ← runCommand database.tables statement.command
  let answer ← limited statement.limits answer
  return (answer, ← database.after answer tables)

/-- Runs a statement. One that fails changes nothing, but of a text, the statements before it have been run. A query
with trusted text is a text. -/
def run (statement : Statement) (database : Database) : Except Fault Answer × Database :=
  match statement.command with
  | .raw text params =>
    let (result, database) := runText text params database
    (result.map fun effect => .touched effect.touched, database)
  | command =>
    if command.isTrusting then
      let (result, database) := runText (statement.text .sqlite) statement.params database
      (result.map fun effect => .rows effect.rows, database)
    else if greatestParams < statement.params.length then (.error "too many SQL variables", database)
    else
      match runCut statement database with
      | .ok (answer, database) => (.ok answer, database)
      | .error fault => (.error fault, database)

end Database

end RecordMapper
