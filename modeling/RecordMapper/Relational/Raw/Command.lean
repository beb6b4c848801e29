import RecordMapper.Relational.Expression.Height

/-! Statements that are given as text, once they have been read. -/

namespace RecordMapper

/-- What a write does with a row that breaks a rule of the table. -/
inductive Conflict where
  | refuse
  | skip
  /-- Removes the rows that it clashes with. -/
  | replace
  deriving DecidableEq

/-- New data for columns of the rows that pass a filter. -/
structure Change where
  columns : List (String × Expression)
  filter : Option Expression

/-- What is done with the row that already has the key of a new one. -/
structure Upsert where
  /-- The columns that it is asked for; any of them if nothing is named. -/
  target : Option (List String)
  /-- The change of that row; without one it stays. -/
  change : Option Change

/-- The table that a statement writes to, with what it goes by there and the columns that are answered of each row
that is written. -/
structure Target where
  table : TableRef
  aliasName : Option String
  returned : List ResultColumn := []

/-- A statement read from text. -/
inductive RawCommand where
  | insert (conflict : Conflict) (target : Target) (columns : Option (List String)) (rows : Compound)
      (upserts : List Upsert)
  | delete (target : Target) (filter : Option Expression)
  | update (conflict : Conflict) (target : Target) (change : Change)
  | query (query : Compound)
  | createTable (sure : Bool) (table : TableRef) (columns : List ColumnDef)
  | dropTable (sure : Bool) (table : TableRef)
  /-- A setting of the database, which changes nothing here. -/
  | setting (database : Option String)

def Change.height (change : Change) : Nat :=
  max (Expression.greatest (change.columns.map Prod.snd)) (Expression.given change.filter)

namespace RawCommand

/-- The greatest height of an expression in a statement. -/
def height : RawCommand → Nat
  | .insert _ target _ rows upserts =>
    max (max rows.height (ResultColumn.greatest target.returned))
      ((upserts.map fun upsert => (upsert.change.map Change.height).getD 0).foldl max 0)
  | .delete target filter => max (Expression.given filter) (ResultColumn.greatest target.returned)
  | .update _ target change => max change.height (ResultColumn.greatest target.returned)
  | .query rows => rows.height
  | .createTable .. | .dropTable .. | .setting _ => 0

end RawCommand

end RecordMapper
