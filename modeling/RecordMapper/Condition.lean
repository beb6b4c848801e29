import RecordMapper.Paging
import RecordMapper.Value

/-! Conditions: predicates with ordering, grouping, paging, projection and new values for one statement.
Predicates, sort keys and group keys add up; everything else is replaced by the last call. -/

namespace RecordMapper

/-- Comparison of a column with one value. -/
inductive Relation where
  | eq
  | notEq
  | lt
  | lte
  | gt
  | gte
  deriving DecidableEq, Inhabited

namespace Relation

def symbol : Relation → String
  | .eq => "="
  | .notEq => "<>"
  | .lt => "<"
  | .lte => "<="
  | .gt => ">"
  | .gte => ">="

def title : Relation → String
  | .eq => "Eq"
  | .notEq => "NotEq"
  | .lt => "Lt"
  | .lte => "Lte"
  | .gt => "Gt"
  | .gte => "Gte"

end Relation

/-- What a column's value is tested for. Patterns are taken as they are, wildcards included. -/
inductive Test where
  | versus (relation : Relation) (value : Value)
  | between (negated : Bool) (low high : Value)
  | among (negated : Bool) (values : List Value)
  | like (negated : Bool) (pattern : Value)
  | null (negated : Bool)
  deriving DecidableEq

namespace Test

/-- The values to bind, in order. -/
def values : Test → List Value
  | .versus _ value => [value]
  | .between _ low high => [low, high]
  | .among _ values => values
  | .like _ pattern => [pattern]
  | .null _ => []

/-- The test of no membership in an empty set, which everything passes. -/
def isVacuous : Test → Bool
  | .among true [] => true
  | _ => false

end Test

/-- A test of one column, or a choice between lists of predicates that each have to hold together. -/
inductive Predicate where
  | compare (key : String) (test : Test)
  | any (branches : List (List Predicate))

namespace Predicate

mutual
/-- Whether there is anything to write for a predicate: a choice without a branch that renders has nothing. -/
def renders : Predicate → Bool
  | .compare .. => true
  | .any branches => branchesRender branches

def listRenders : List Predicate → Bool
  | [] => false
  | predicate :: rest => renders predicate || listRenders rest

def branchesRender : List (List Predicate) → Bool
  | [] => false
  | branch :: rest => listRenders branch || branchesRender rest
end

mutual
/-- Whether a predicate can leave a row out. A choice can iff it has branches that render and each of
those can. -/
def restricts : Predicate → Bool
  | .compare _ test => !test.isVacuous
  | .any branches => branchesRender branches && branchesRestrict branches

def listRestricts : List Predicate → Bool
  | [] => false
  | predicate :: rest => restricts predicate || listRestricts rest

/-- Every branch that renders restricts. -/
def branchesRestrict : List (List Predicate) → Bool
  | [] => true
  | branch :: rest => (!listRenders branch || listRestricts branch) && branchesRestrict rest
end

end Predicate

inductive Order where
  | asc
  | desc
  deriving DecidableEq, Inhabited

def Order.keyword : Order → String
  | .asc => "ASC"
  | .desc => "DESC"

structure SortKey where
  key : String
  order : Order
  deriving DecidableEq

inductive JoinKind where
  | left
  | right
  | inner
  deriving DecidableEq, Inhabited

def JoinKind.keyword : JoinKind → String
  | .left => "LEFT JOIN"
  | .right => "RIGHT JOIN"
  | .inner => "INNER JOIN"

/-- The table of a query over several tables, with its alias. -/
structure Source where
  table : String
  aliasName : String
  deriving DecidableEq

/-- A joined table, with an alias after a blank if it has one, and a trusted SQL expression to join on. -/
structure Join where
  kind : JoinKind
  table : String
  expression : String
  deriving DecidableEq

/-- Columns to set and the values for them. Their numbers are compared when the statement is made. -/
structure Upset where
  keys : List String
  values : List Value
  deriving DecidableEq

structure Condition where
  /-- Name of the model the condition is bound to. -/
  model : Option String := none
  predicates : List Predicate := []
  sorts : List SortKey := []
  groups : List String := []
  paging : Paging := {}
  upset : Option Upset := none
  /-- Columns to read, or SQL expressions for a query over several tables. -/
  fields : List String := []
  source : Option Source := none
  join : Option Join := none

namespace Condition

def hasPredicates (condition : Condition) : Bool := Predicate.listRenders condition.predicates

/-- Whether the condition can leave a row out. -/
def restrictsRows (condition : Condition) : Bool := Predicate.listRestricts condition.predicates

def isComplex (condition : Condition) : Bool := condition.source.isSome

def add (predicate : Predicate) (condition : Condition) : Condition :=
  { condition with predicates := condition.predicates ++ [predicate] }

/-- One step of building a condition. -/
inductive Step where
  | test (key : String) (test : Test)
  /-- A choice between the predicates of other conditions. -/
  | either (branches : List Condition)
  | orderBy (key : String) (order : Order)
  | groupBy (keys : List String)
  | project (fields : List String)
  | source (table aliasName : String)
  | join (kind : JoinKind) (table expression : String)
  | page (number size : UInt64)
  | offset (start count : UInt64)
  | upset (keys : List String) (values : List Value)
  /-- A count has found so many rows. -/
  | counted (total : UInt64)

def apply (condition : Condition) : Step → Condition
  | .test key test => condition.add (.compare key test)
  | .either branches => condition.add (.any (branches.map Condition.predicates))
  | .orderBy key order => { condition with sorts := condition.sorts ++ [⟨key, order⟩] }
  | .groupBy keys => { condition with groups := condition.groups ++ keys }
  | .project fields => { condition with fields := fields }
  | .source table aliasName => { condition with source := some ⟨table, aliasName⟩ }
  | .join kind table expression => { condition with join := some ⟨kind, table, expression⟩ }
  | .page number size => { condition with paging := condition.paging.page number size }
  | .offset start count => { condition with paging := condition.paging.offset start count }
  | .upset keys values => { condition with upset := some ⟨keys, values⟩ }
  | .counted total => { condition with paging := condition.paging.setTotal total }

/-- A condition built step by step. -/
def build (condition : Condition) (steps : List Step) : Condition := steps.foldl apply condition

/-- Stores the number of matching rows. -/
def setTotal (total : UInt64) (condition : Condition) : Condition := condition.apply (.counted total)

end Condition

end RecordMapper
