/-! The three truth values of SQL. A comparison with NULL is unknown, and a filter keeps a row only if it is true. -/

namespace RecordMapper

inductive Truth where
  | no
  | unknown
  | yes
  deriving DecidableEq, Inhabited

namespace Truth

def ofBool (value : Bool) : Truth := if value then .yes else .no

def isTrue : Truth → Bool
  | .yes => true
  | _ => false

def not : Truth → Truth
  | .no => .yes
  | .unknown => .unknown
  | .yes => .no

def and : Truth → Truth → Truth
  | .no, _ => .no
  | _, .no => .no
  | .yes, .yes => .yes
  | _, _ => .unknown

def or : Truth → Truth → Truth
  | .yes, _ => .yes
  | _, .yes => .yes
  | .no, .no => .no
  | _, _ => .unknown

/-- All hold. -/
def all (truths : List Truth) : Truth := truths.foldr and .yes

/-- At least one holds. -/
def any (truths : List Truth) : Truth := truths.foldr or .no

/-- The negation if one is asked for. -/
def negatedIf (negated : Bool) (truth : Truth) : Truth := if negated then truth.not else truth

end Truth

end RecordMapper
