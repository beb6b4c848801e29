import RecordMapper.Relational.Scalar
import RecordMapper.Relational.Token
import RecordMapper.Relational.Window

/-! What the name of a function means where it is called. -/

namespace RecordMapper

/-- A function by what it works on: data, the rows of a group, or the rows of a window. -/
inductive Call where
  | scalar (function : Scalar)
  | summary (summary : Summary)
  | window (function : WindowFunction)

namespace Call

/-- How a function is called. -/
structure Manner where
  name : String
  count : Nat
  distinct : Bool
  isSorted : Bool
  isTested : Bool
  isWindowed : Bool
  /-- Whether groups and windows can be summarized where it is called. -/
  summing : Bool
  windowing : Bool

/-- The function of a name for so many arguments. -/
def named (name : String) (count : Nat) : Except Fault Call :=
  let capitals := Token.capitals name
  match Summary.find? capitals count, WindowFunction.find? capitals count, Scalar.find? capitals count with
  | some found, _, _ => .ok (.summary found)
  | _, some found, _ => .ok (.window found)
  | _, _, some found => .ok (.scalar found)
  | none, none, none =>
    if Summary.isNamed capitals || WindowFunction.isNamed capitals || Scalar.isNamed capitals then
      .error ("wrong number of arguments to function " ++ name ++ "()")
    else .error ("no such function: " ++ name)

/-- Refuses what a function cannot be called with. -/
def check (manner : Manner) (call : Call) : Except Fault Unit :=
  let name := manner.name ++ "()"
  match call with
  | .scalar _ =>
    if manner.isWindowed then .error (name ++ " may not be used as a window function")
    else if manner.isSorted then .error ("ORDER BY may not be used with non-aggregate " ++ name)
    else if manner.isTested then .error ("FILTER may not be used with non-aggregate " ++ name)
    else .ok ()
  | .window _ =>
    if !manner.isWindowed || !manner.windowing then .error ("misuse of window function " ++ name)
    else if manner.distinct then .error "DISTINCT is not supported for window functions"
    else if manner.isTested then .error "FILTER clause may only be used with aggregate window functions"
    else .ok ()
  | .summary _ =>
    if manner.isWindowed then
      if manner.distinct then .error "DISTINCT is not supported for window functions"
      else if manner.isSorted then .error ("ORDER BY may not be used with non-aggregate " ++ name)
      else if !manner.windowing then .error ("misuse of window function " ++ name)
      else .ok ()
    else if !manner.summing then .error ("misuse of aggregate function " ++ name)
    else if manner.distinct && manner.count ≠ 1 then .error "DISTINCT aggregates must have exactly one argument"
    else .ok ()

/-- The function that is called. -/
def find (manner : Manner) : Except Fault Call := do
  let call ← named manner.name manner.count
  check manner call
  return call

end Call

end RecordMapper
