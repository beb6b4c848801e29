/-! Looking for one sequence inside another, from left to right. -/

namespace RecordMapper.Text

variable {α : Type} [BEq α]

/-- How many items stand before the first place where a part occurs. -/
def place? (part : List α) : List α → Option Nat
  | [] => if part.isEmpty then some 0 else none
  | a :: rest => if part.isPrefixOf (a :: rest) then some 0 else (place? part rest).map (· + 1)

def occursIn (part whole : List α) : Bool := (place? part whole).isSome

/-- Replaces a part wherever it occurs; what overlaps with an earlier place is not looked at again. `skip` items
of a replaced part are still to be passed over. -/
def replaceFrom (part other : List α) : Nat → List α → List α
  | _, [] => []
  | skip + 1, _ :: rest => replaceFrom part other skip rest
  | 0, a :: rest =>
    if part.isPrefixOf (a :: rest) then other ++ replaceFrom part other (part.length - 1) rest
    else a :: replaceFrom part other 0 rest

/-- Replaces a part wherever it occurs. The empty part occurs nowhere. -/
def replaceAll (part other whole : List α) : List α :=
  if part.isEmpty then whole else replaceFrom part other 0 whole

end RecordMapper.Text
