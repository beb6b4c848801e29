import RecordMapper.Relational.Affinity
import RecordMapper.Relational.Datum.Arithmetic
import RecordMapper.Sql.Command

/-! Expressions and queries of SQL as they are written: names still stand for whatever a row has under them. -/

namespace RecordMapper

/-- How the results of two queries are put together. -/
inductive SetOperation where
  | union
  | unionAll
  | intersect
  | except
  deriving DecidableEq

def SetOperation.name : SetOperation → String
  | union => "UNION"
  | unionAll => "UNION ALL"
  | intersect => "INTERSECT"
  | except => "EXCEPT"

/-- What the bounds of a frame of rows are counted in. -/
inductive FrameUnit where
  | rows
  | range
  | groups
  deriving DecidableEq

/-- Rows of a frame that are left out after all. -/
inductive Exclusion where
  /-- None of them, without a word about it. -/
  | unsaid
  | nothing
  | current
  | group
  | ties
  deriving DecidableEq

mutual
inductive Expression where
  /-- A column, after its table and that one's database if they are given. Where no such column is known, a single
  name in double quotes is a text. -/
  | name (parts : List String) (quoted : Bool)
  | literal (datum : Datum)
  /-- Several values at once, which can only be compared. -/
  | row (items : List Expression)
  /-- The value alone, without what is known of the column it comes from. -/
  | bare (inside : Expression)
  | negate (inside : Expression)
  | complement (inside : Expression)
  | not (inside : Expression)
  | and (left right : Expression)
  | or (left right : Expression)
  | versus (relation : Relation) (left right : Expression)
  /-- Whether two data are the same, NULL included. -/
  | same (negated : Bool) (left right : Expression)
  | null (negated : Bool) (inside : Expression)
  | between (negated : Bool) (inside low high : Expression)
  | among (negated : Bool) (inside : Expression) (others : List Expression)
  | amongRows (negated : Bool) (inside : Expression) (query : Compound)
  | operate (operator : Operator) (left right : Expression)
  /-- One of two expressions, by whether the first is true. -/
  | branch (test yes no : Expression)
  /-- A function or a summary, which can be of rows in an order, of those that pass a test, and of a window of rows. -/
  | call (name : String) (distinct : Bool) (arguments : List Expression) (sorts : List Sorting)
      (test : Option Expression) (window : Option Window)
  | cast (affinity : Affinity) (inside : Expression)
  | collate (collation : String) (inside : Expression)
  /-- The first row of a query's result. -/
  | first (query : Compound)
  /-- Whether a query has a result. -/
  | exists (query : Compound)

/-- What a query puts into columns of its result. -/
inductive ResultColumn where
  | all
  | allOf (owner : String)
  /-- An expression with its label, if it is given one, and as it is written. -/
  | one (expression : Expression) (label : Option String) (source : String)

/-- The rule by which rows of two origins go together. -/
inductive JoinRule where
  /-- All go together. -/
  | free
  | on (test : Expression)
  /-- Those with equal data in columns of these names. -/
  | sharing (names : List String)
  /-- Those with equal data in all columns of one name. -/
  | natural

/-- Where rows come from. -/
inductive Origin where
  | table (table : TableRef) (aliasName : Option String)
  | query (query : Compound) (aliasName : Option String)
  /-- The rows that a function makes. -/
  | call (name : String) (arguments : List Expression) (aliasName : Option String)
  /-- Two origins side by side: which rows stay without a partner, and the rule for partners. -/
  | join (keepsLeft keepsRight : Bool) (left right : Origin) (rule : JoinRule)

structure Sorting where
  expression : Expression
  order : Order
  /-- Whether NULL comes last, if that is said. -/
  nullsLast : Option Bool := none

/-- Where a frame of rows starts or ends, counted from the row that it belongs to. -/
inductive Bound where
  | start
  | before (count : Expression)
  | here
  | after (count : Expression)
  | finish

/-- The rows of a partition that belong to one of its rows. -/
structure Extent where
  unit : FrameUnit
  first : Bound
  last : Bound
  exclusion : Exclusion

/-- A window of rows. It can be made from one that has a name. -/
structure Window where
  base : Option String := none
  partitions : List Expression := []
  sorts : List Sorting := []
  extent : Option Extent := none
  /-- Whether it is the named one itself. -/
  isPlain : Bool := false

structure NamedWindow where
  name : String
  window : Window

/-- A query with a name that another one reads like a table. -/
structure CommonTable where
  name : String
  columns : Option (List String)
  query : Compound

/-- Rows that are read from an origin, filtered, grouped and made into rows of a result. -/
structure Select where
  distinct : Bool := false
  columns : List ResultColumn
  /-- Without an origin there is one row. -/
  origin : Option Origin := none
  filter : Option Expression := none
  groups : List Expression := []
  having : Option Expression := none
  windows : List NamedWindow := []

/-- What is put to the result of what stands before it. -/
structure Addition where
  operation : SetOperation
  select : Select

/-- A query: results put together, sorted and cut. -/
structure Compound where
  common : List CommonTable := []
  first : Select
  additions : List Addition := []
  sorts : List Sorting := []
  limit : Option Expression := none
  offset : Option Expression := none
end

/-- A query for all that an origin has. -/
def Origin.everything (origin : Origin) : Compound := { first := { columns := [.all], origin := some origin } }

namespace Expression

/-- NULL. -/
def nothing : Expression := .literal .null

/-- A choice by tests in order; without a test that holds, the last expression. -/
def choice (arms : List (Expression × Expression)) (otherwise : Expression) : Expression :=
  arms.foldr (fun (test, result) rest => .branch test result rest) otherwise

/-- Whether an expression is true, or false, as a test that is never unknown. -/
def holds (negated value : Bool) (inside : Expression) : Expression :=
  .branch (if value then inside else .not inside) (.literal (.int (if negated then 0 else 1)))
    (.literal (.int (if negated then 1 else 0)))

/-- Whether an expression is zero as it is written, so that what stands beside it does not count. -/
def isZero : Expression → Bool
  | .literal (.int n) => n = 0
  | .and left right => left.isZero || right.isZero
  | _ => false

/-- A function of data alone. -/
def applied (name : String) (arguments : List Expression) : Expression := .call name false arguments [] none none

end Expression

end RecordMapper
