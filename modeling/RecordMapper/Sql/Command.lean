import RecordMapper.Sql.Piece

/-! Statements as trees, and their text. What a statement does can be read off its tree; text and parameters
are made from the same pieces, so a parameter's place in the list is its placeholder's place in the text. -/

namespace RecordMapper

/-- A table, within a database if one is named. -/
structure TableRef where
  database : Option String
  name : String
  deriving DecidableEq

/-- What a query puts into a column of its result. -/
inductive Item where
  | column (name : String)
  /-- A trusted expression. -/
  | expression (text : String)
  /-- The number one. -/
  | one
  /-- The number one under a name. -/
  | oneAs (label : String)
  deriving DecidableEq

/-- A joined table with its alias and the trusted expression to join on. -/
structure JoinedTable where
  kind : JoinKind
  table : TableRef
  aliasName : Option String
  expression : String
  deriving DecidableEq

/-- Where the rows of a query come from. -/
structure RowSource where
  table : TableRef
  aliasName : Option String := none
  join : Option JoinedTable := none
  deriving DecidableEq

structure Query where
  items : List Item
  source : RowSource
  filter : List Formula := []
  groups : List ColumnRef := []
  sorts : List (ColumnRef × Order) := []

structure ColumnDef where
  name : String
  kind : Kind
  capacity : Option Nat
  isKey : Bool
  required : Bool
  deriving DecidableEq

inductive Command where
  | insert (table : TableRef) (columns : List String) (rows : List (List Value))
  /-- Sets each column by a choice on the key: the first arm whose value is the key's gives the new value. -/
  | updateByKey (table : TableRef) (key : String) (columns : List (String × List (Value × Value)))
      (keys : List Value)
  | updateWhere (table : TableRef) (columns : List (String × Value)) (filter : List Formula)
  | delete (table : TableRef) (filter : List Formula)
  | select (query : Query)
  /-- The number of rows of a source. -/
  | countRows (source : RowSource) (filter : List Formula)
  /-- The number of rows of a query's result. -/
  | countResult (query : Query)
  | createTable (table : TableRef) (columns : List ColumnDef)
  | dropTable (table : TableRef)
  /-- Text as the caller wrote it. -/
  | raw (text : String) (params : List Value)

/-- A command with limit clauses after it, in order. -/
structure Statement where
  command : Command
  limits : List PagePlan := []

def TableRef.pieces (table : TableRef) : List Piece :=
  match table.database with
  | some database => [.name database, .fixed ".", .name table.name]
  | none => [.name table.name]

def Item.pieces : Item → List Piece
  | .column name => [.name name]
  | .expression text => [.raw text]
  | .one => [.fixed "1"]
  | .oneAs label => [.fixed ("1 AS " ++ label)]

/-- A blank and the alias, if there is one. -/
def aliasPieces : Option String → List Piece
  | some name => [.fixed " ", .name name]
  | none => []

def JoinedTable.pieces (join : JoinedTable) : List Piece :=
  .fixed (" " ++ join.kind.keyword ++ " ") :: (join.table.pieces ++ aliasPieces join.aliasName ++
    [.fixed " ON ", .raw join.expression])

def RowSource.pieces (source : RowSource) : List Piece :=
  source.table.pieces ++ aliasPieces source.aliasName ++
    match source.join with
    | some join => join.pieces
    | none => []

def groupPieces (groups : List ColumnRef) : List Piece :=
  if groups.isEmpty then [] else .fixed " GROUP BY " :: Piece.separated ", " (groups.map ColumnRef.pieces)

def sortPieces (sorts : List (ColumnRef × Order)) : List Piece :=
  if sorts.isEmpty then []
  else
    .fixed " ORDER BY " ::
      Piece.separated ", " (sorts.map fun (column, order) => column.pieces ++ [.fixed (" " ++ order.keyword)])

def Item.isExpression : Item → Bool
  | .expression _ => true
  | _ => false

/-- Whether a query has trusted text, which can say more than an expression. -/
def Query.isTrusting (query : Query) : Bool := query.items.any Item.isExpression || query.source.join.isSome

def Query.pieces (query : Query) : List Piece :=
  .fixed "SELECT " :: (Piece.separated ", " (query.items.map Item.pieces) ++ .fixed " FROM " ::
    (query.source.pieces ++ Formula.wherePieces query.filter ++ groupPieces query.groups ++ sortPieces query.sorts))

def ColumnDef.pieces (column : ColumnDef) : List Piece :=
  [.name column.name, .fixed " ", .type column.kind column.capacity] ++
    if column.isKey then [.fixed " PRIMARY KEY"] else if column.required then [.fixed " NOT NULL"] else []

/-- `CASE key WHEN … THEN … END` with one arm for each pair. -/
def casePieces (key : String) (arms : List (Value × Value)) : List Piece :=
  .fixed "CASE " :: .name key ::
    (arms.flatMap (fun (given, result) => [.fixed " WHEN ", .slot given, .fixed " THEN ", .slot result]) ++
      [.fixed " END"])

namespace Command

/-- The pieces of a command, in sections that number their parameters separately: the filter of an update by
condition starts again from one. -/
def sections : Command → List (List Piece)
  | .insert table columns rows =>
    [.fixed "INSERT INTO " :: (table.pieces ++ .fixed " (" ::
      (Piece.separated ", " (columns.map fun column => [.name column]) ++ .fixed ") VALUES " ::
        Piece.separated ", " (rows.map Piece.slots)))]
  | .updateByKey table key columns keys =>
    [.fixed "UPDATE " :: (table.pieces ++ .fixed " SET " ::
      (Piece.separated ", " (columns.map fun (column, arms) => .name column :: .fixed " = " :: casePieces key arms) ++
        .fixed " WHERE " :: .name key :: .fixed " IN " :: Piece.slots keys))]
  | .updateWhere table columns filter =>
    [.fixed "UPDATE " :: (table.pieces ++ .fixed " SET " ::
      Piece.separated ", " (columns.map fun (column, value) => [.name column, .fixed " = ", .slot value])),
     Formula.wherePieces filter]
  | .delete table filter => [.fixed "DELETE FROM " :: (table.pieces ++ Formula.wherePieces filter)]
  | .select query => [query.pieces]
  | .countRows source filter =>
    [.fixed "SELECT COUNT(1) FROM " :: (source.pieces ++ Formula.wherePieces filter)]
  | .countResult query => [.fixed "SELECT COUNT(1) FROM (" :: (query.pieces ++ [.fixed ") _cnt"])]
  | .createTable table columns =>
    [.fixed "CREATE TABLE IF NOT EXISTS " :: (table.pieces ++ .fixed " (" ::
      (Piece.separated ", " (columns.map ColumnDef.pieces) ++ [.fixed ")"]))]
  | .dropTable table => [.fixed "DROP TABLE IF EXISTS " :: table.pieces]
  | .raw text _ => [[.raw text]]

def params : Command → List Value
  | .raw _ params => params
  | command => command.sections.flatMap Piece.params

/-- Whether there is trusted text in a query. -/
def isTrusting : Command → Bool
  | .select query | .countResult query => query.isTrusting
  | _ => false

end Command

namespace Statement

def sections (statement : Statement) : List (List Piece) :=
  statement.command.sections ++ statement.limits.map fun plan => [.limit plan]

/-- The text that a database of the dialect is sent. -/
def text (dialect : Dialect) (statement : Statement) : String :=
  String.join (statement.sections.map (Piece.join dialect))

/-- The values to bind, in the order of their placeholders. -/
def params (statement : Statement) : List Value := statement.command.params

/-- Adds a limit clause at the end. -/
def paginate (statement : Statement) (plan : PagePlan) : Statement :=
  { statement with limits := statement.limits ++ [plan] }

end Statement

end RecordMapper
