import RecordMapper.Condition

/-! Comparisons as they are declared: an operator and the values that come with it, however many. The tests of a condition
are those whose values are as many as their operator takes. -/

namespace RecordMapper

/-- How a column is compared. -/
inductive Comparator where
  | versus (relation : Relation)
  | between (negated : Bool)
  | among (negated : Bool)
  | like (negated : Bool)
  | null (negated : Bool)
  deriving DecidableEq

/-- The operator's name in messages. -/
def Comparator.title : Comparator → String
  | .versus relation => relation.title
  | .between negated => if negated then "NotBetween" else "Between"
  | .among negated => if negated then "NotIn" else "In"
  | .like negated => if negated then "NotLike" else "Like"
  | .null negated => if negated then "IsNotNull" else "IsNull"

structure Comparison where
  key : String
  operator : Comparator
  values : List Value
  deriving DecidableEq

/-! What the methods of a condition declare. -/

namespace Comparison

def eq (key : String) (value : Value) : Comparison := ⟨key, .versus .eq, [value]⟩

def notEq (key : String) (value : Value) : Comparison := ⟨key, .versus .notEq, [value]⟩

def lt (key : String) (value : Value) : Comparison := ⟨key, .versus .lt, [value]⟩

def lte (key : String) (value : Value) : Comparison := ⟨key, .versus .lte, [value]⟩

def gt (key : String) (value : Value) : Comparison := ⟨key, .versus .gt, [value]⟩

def gte (key : String) (value : Value) : Comparison := ⟨key, .versus .gte, [value]⟩

def between (key : String) (low high : Value) : Comparison := ⟨key, .between false, [low, high]⟩

def notBetween (key : String) (low high : Value) : Comparison := ⟨key, .between true, [low, high]⟩

def inList (key : String) (values : List Value) : Comparison := ⟨key, .among false, values⟩

def notInList (key : String) (values : List Value) : Comparison := ⟨key, .among true, values⟩

def like (key : String) (pattern : Value) : Comparison := ⟨key, .like false, [pattern]⟩

def notLike (key : String) (pattern : Value) : Comparison := ⟨key, .like true, [pattern]⟩

def isNull (key : String) : Comparison := ⟨key, .null false, []⟩

def isNotNull (key : String) : Comparison := ⟨key, .null true, []⟩

/-- The test that a comparison stands for, if it has as many values as its operator takes. -/
def test? (comparison : Comparison) : Option Test :=
  match comparison.operator, comparison.values with
  | .versus relation, [value] => some (.versus relation value)
  | .between negated, [low, high] => some (.between negated low high)
  | .among negated, values => some (.among negated values)
  | .like negated, [pattern] => some (.like negated pattern)
  | .null negated, [] => some (.null negated)
  | _, _ => none

end Comparison

namespace Test

def operator : Test → Comparator
  | .versus relation _ => .versus relation
  | .between negated _ _ => .between negated
  | .among negated _ => .among negated
  | .like negated _ => .like negated
  | .null negated => .null negated

def comparison (key : String) (test : Test) : Comparison := ⟨key, test.operator, test.values⟩

end Test

/-- A comparison, or a choice between lists of criteria that each have to hold together. -/
inductive Criterion where
  | compare (comparison : Comparison)
  | any (branches : List (List Criterion))

namespace Predicate

mutual
def criterion : Predicate → Criterion
  | .compare key test => .compare (test.comparison key)
  | .any branches => .any (branchCriteria branches)

def criteria : List Predicate → List Criterion
  | [] => []
  | predicate :: rest => criterion predicate :: criteria rest

def branchCriteria : List (List Predicate) → List (List Criterion)
  | [] => []
  | branch :: rest => criteria branch :: branchCriteria rest
end

end Predicate

end RecordMapper
