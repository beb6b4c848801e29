import RecordMapper.Relational.Expression

/-! The height of expressions as trees of operators, which is limited. -/

namespace RecordMapper

mutual
/-- The height of an expression as it is written. -/
def Expression.height : Expression → Nat
  | .name parts _ => parts.length
  | .literal _ => 1
  | .row items => Expression.greatest items + 1
  | .bare inside | .negate inside | .complement inside | .not inside | .null _ inside | .cast _ inside
  | .collate _ inside => inside.height + 1
  | .and left right | .or left right | .versus _ left right | .operate _ left right => max left.height right.height + 1
  | .same negated left right => max left.height right.height + 1 + negated.toNat
  | .between negated inside low high => max inside.height (max low.height high.height) + 1 + negated.toNat
  | .among negated inside others =>
    let right := match others with
      | [_] => Expression.greatest others + 1
      | _ => Expression.greatest others
    max inside.height right + 1 + negated.toNat
  | .amongRows negated inside query => max inside.height query.height + 1 + negated.toNat
  | .branch test yes no =>
    let last := match no with
      | .branch .. => no.height
      | _ => no.height + 1
    max (max test.height yes.height + 1) last
  | .call _ _ arguments sorts test window =>
    max (max (Expression.greatest arguments) (Sorting.greatest sorts))
      (max (Expression.given test) (Window.given window)) + 1
  | .first query | .exists query => query.height + 1

def Expression.greatest : List Expression → Nat
  | [] => 0
  | expression :: rest => max expression.height (Expression.greatest rest)

/-- The height of an expression that may be missing. -/
def Expression.given : Option Expression → Nat
  | none => 0
  | some expression => expression.height

def Sorting.greatest : List Sorting → Nat
  | [] => 0
  | ⟨expression, _, _⟩ :: rest => max expression.height (Sorting.greatest rest)

def Window.given : Option Window → Nat
  | none => 0
  | some ⟨_, partitions, sorts, _, _⟩ => max (Expression.greatest partitions) (Sorting.greatest sorts)

def ResultColumn.greatest : List ResultColumn → Nat
  | [] => 0
  | .one expression _ _ :: rest => max expression.height (ResultColumn.greatest rest)
  | .all :: rest | .allOf _ :: rest => ResultColumn.greatest rest

def JoinRule.height : JoinRule → Nat
  | .on test => test.height
  | .free | .sharing _ | .natural => 0

def Origin.height : Origin → Nat
  | .table .. => 0
  | .query query _ => query.height
  | .call _ arguments _ => Expression.greatest arguments
  | .join _ _ left right rule => max rule.height (max left.height right.height)

def Origin.given : Option Origin → Nat
  | none => 0
  | some origin => origin.height

def Select.height : Select → Nat
  | ⟨_, columns, origin, filter, groups, having, _⟩ =>
    max (max (ResultColumn.greatest columns) (Origin.given origin))
      (max (Expression.given filter) (max (Expression.greatest groups) (Expression.given having)))

def Addition.greatest : List Addition → Nat
  | [] => 0
  | ⟨_, select⟩ :: rest => max select.height (Addition.greatest rest)

def CommonTable.greatest : List CommonTable → Nat
  | [] => 0
  | ⟨_, _, query⟩ :: rest => max query.height (CommonTable.greatest rest)

def Compound.height : Compound → Nat
  | ⟨common, first, additions, sorts, limit, offset⟩ =>
    max (max (CommonTable.greatest common) (max first.height (Addition.greatest additions)))
      (max (Sorting.greatest sorts) (max (Expression.given limit) (Expression.given offset)))
end

end RecordMapper
