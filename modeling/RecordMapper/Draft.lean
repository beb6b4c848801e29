import RecordMapper.Criterion

/-! Conditions as they are declared, call by call. Nothing is looked at yet: a comparison may come with any number of
values. -/

namespace RecordMapper

/-- Whether a step of building leaves the predicates as they are. -/
def Condition.Step.isSetting : Condition.Step → Bool
  | .test .. | .either _ => false
  | _ => true

structure Draft where
  criteria : List Criterion := []
  /-- All that a condition has besides its predicates. -/
  settings : Condition := {}

namespace Draft

def add (criterion : Criterion) (draft : Draft) : Draft := { draft with criteria := draft.criteria ++ [criterion] }

def compare (draft : Draft) (comparison : Comparison) : Draft := draft.add (.compare comparison)

/-- A choice between what other drafts declare. -/
def either (draft : Draft) (branches : List Draft) : Draft := draft.add (.any (branches.map criteria))

def set (draft : Draft) (step : Condition.Step) : Draft := { draft with settings := draft.settings.apply step }

end Draft

end RecordMapper
