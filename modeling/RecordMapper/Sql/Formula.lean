import RecordMapper.Criterion

/-! Row formulas: what is left of a condition's predicates once keys have been checked, comparisons with NULL
turned into null tests, empty sets into constants, and choices without content dropped. -/

namespace RecordMapper

/-- A column, after a table alias if the key has one. -/
structure ColumnRef where
  parts : List String
  deriving DecidableEq

namespace ColumnRef

def ofKey (key : String) : ColumnRef := ⟨(key.toList.splitOn '.').map String.ofList⟩

def ofName (column : String) : ColumnRef := ⟨[column]⟩

end ColumnRef

inductive Formula where
  | versus (column : ColumnRef) (relation : Relation) (value : Value)
  | between (column : ColumnRef) (negated : Bool) (low high : Value)
  | among (column : ColumnRef) (negated : Bool) (values : List Value)
  | like (column : ColumnRef) (negated : Bool) (pattern : Value)
  | null (column : ColumnRef) (negated : Bool)
  /-- True or false for every row. -/
  | constant (holds : Bool)
  /-- One of the branches holds; all formulas of a branch hold together. -/
  | any (branches : List (List Formula))

/-- The failure of a comparison that has not the number of values that its operator takes. -/
def Comparison.miscount (comparison : Comparison) (count : Nat) : Failure :=
  .validation (.wrongNumber comparison.operator.title comparison.key count)

namespace Formula

/-- The formula of a comparison. Equality with NULL asks for NULL; no order compares with it. -/
def ofComparison (comparison : Comparison) : Outcome Formula :=
  let column := ColumnRef.ofKey comparison.key
  match comparison.operator, comparison.values with
  | .versus .eq, [.null] => .ok (.null column false)
  | .versus .notEq, [.null] => .ok (.null column true)
  | .versus relation, [.null] => .error (.validation (.orderedNull relation.title comparison.key))
  | .versus relation, [value] => .ok (.versus column relation value)
  | .between negated, [low, high] => .ok (.between column negated low high)
  | .among negated, [] => .ok (.constant negated)
  | .among negated, values => .ok (.among column negated values)
  | .like negated, [pattern] => .ok (.like column negated pattern)
  | .null negated, _ => .ok (.null column negated)
  | .between _, _ => .error (comparison.miscount 2)
  | .versus _, _ | .like _, _ => .error (comparison.miscount 1)

mutual
/-- The formula of a criterion, or nothing for a choice without content. -/
def ofCriterion : Criterion → Outcome (Option Formula)
  | .compare comparison => do
    checkedName (Name.checkKey comparison.key)
    return some (← ofComparison comparison)
  | .any branches => do
    match ← ofChoice branches with
    | [] => return none
    | kept => return some (.any kept)

def ofCriteria : List Criterion → Outcome (List Formula)
  | [] => .ok []
  | criterion :: rest => do
    let first ← ofCriterion criterion
    let others ← ofCriteria rest
    return first.toList ++ others

/-- Branches with at least one formula. -/
def ofChoice : List (List Criterion) → Outcome (List (List Formula))
  | [] => .ok []
  | branch :: rest => do
    let first ← ofCriteria branch
    let others ← ofChoice rest
    return if first.isEmpty then others else first :: others
end

/-! The formulas of predicates are those of their criteria. -/

def ofTest (key : String) (test : Test) : Outcome Formula := ofComparison (test.comparison key)

def ofPredicate (predicate : Predicate) : Outcome (Option Formula) := ofCriterion predicate.criterion

def ofPredicates (predicates : List Predicate) : Outcome (List Formula) := ofCriteria (Predicate.criteria predicates)

def ofBranches (branches : List (List Predicate)) : Outcome (List (List Formula)) :=
  ofChoice (Predicate.branchCriteria branches)

theorem ofPredicate_compare_eq (key : String) (test : Test) :
    ofPredicate (.compare key test) = do
      checkedName (Name.checkKey key)
      return some (← ofTest key test) := rfl

theorem ofPredicate_any_eq (branches : List (List Predicate)) :
    ofPredicate (.any branches) = do
      match ← ofBranches branches with
      | [] => return none
      | kept => return some (.any kept) := rfl

theorem ofPredicates_cons_eq (predicate : Predicate) (rest : List Predicate) :
    ofPredicates (predicate :: rest) = do
      let first ← ofPredicate predicate
      let others ← ofPredicates rest
      return first.toList ++ others := rfl

theorem ofBranches_cons_eq (branch : List Predicate) (rest : List (List Predicate)) :
    ofBranches (branch :: rest) = do
      let first ← ofPredicates branch
      let others ← ofBranches rest
      return if first.isEmpty then others else first :: others := rfl

end Formula

namespace Condition

/-- Formulas that have to hold together for a row to match. -/
def formulas (condition : Condition) : Outcome (List Formula) := Formula.ofPredicates condition.predicates

/-- Columns to group by. -/
def groupRefs (condition : Condition) : Outcome (List ColumnRef) :=
  condition.groups.mapM fun key => do
    checkedName (Name.checkKey key)
    return ColumnRef.ofKey key

/-- Columns to sort by, with their direction. -/
def sortRefs (condition : Condition) : Outcome (List (ColumnRef × Order)) :=
  condition.sorts.mapM fun sort => do
    checkedName (Name.checkKey sort.key)
    return (ColumnRef.ofKey sort.key, sort.order)

end Condition

end RecordMapper
