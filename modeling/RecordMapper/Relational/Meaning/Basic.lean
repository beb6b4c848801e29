import RecordMapper.Relational.Call
import RecordMapper.Relational.Scope

/-! What expressions are made of once their names are known, and how that is put together. -/

namespace RecordMapper

mutual
/-- The columns that a term reads, but for those that only queries in it read. -/
def Term.columns : Term → List (Nat × Nat)
  | .column level index => [(level, index)]
  | .literal _ | .first .. | .exists _ => []
  | .negate inside | .complement inside | .not inside | .null inside | .cast _ inside => inside.columns
  | .and left right | .or left right | .versus _ _ left right | .same _ left right | .operate _ left right =>
    left.columns ++ right.columns
  | .between _ _ a b c | .branch a b c => a.columns ++ b.columns ++ c.columns
  | .among _ inside others => inside.columns ++ Term.allColumns others
  | .amongRows _ insides _ => Term.allColumns insides
  | .apply _ _ arguments => Term.allColumns arguments
  | .summary _ aggregate => aggregate.columns

def Term.allColumns : List Term → List (Nat × Nat)
  | [] => []
  | term :: rest => term.columns ++ Term.allColumns rest

def Aggregate.columns : Aggregate → List (Nat × Nat)
  | ⟨_, _, _, arguments, _, _, _⟩ => Term.allColumns arguments
end

mutual
/-- The summaries in a term that pick a row of their group at a level: what comes first, and of what. -/
def Term.picks (level : Nat) : Term → List ((Ordering × Collation) × List Term)
  | .column .. | .literal _ | .first .. | .exists _ => []
  | .negate inside | .complement inside | .not inside | .null inside | .cast _ inside => inside.picks level
  | .and left right | .or left right | .versus _ _ left right | .same _ left right | .operate _ left right =>
    left.picks level ++ right.picks level
  | .between _ _ a b c | .branch a b c => a.picks level ++ b.picks level ++ c.picks level
  | .among _ inside others => inside.picks level ++ Term.allPicks level others
  | .amongRows _ insides _ => Term.allPicks level insides
  | .apply _ _ arguments => Term.allPicks level arguments
  | .summary own aggregate => if own = level then aggregate.picks else []

def Term.allPicks (level : Nat) : List Term → List ((Ordering × Collation) × List Term)
  | [] => []
  | term :: rest => term.picks level ++ Term.allPicks level rest

/-- What comes first of rows that pass a test is NULL for those that do not. -/
def Aggregate.picks : Aggregate → List ((Ordering × Collation) × List Term)
  | ⟨summary, _, collation, arguments, test, _, _⟩ =>
    let picked := match test with
      | none => arguments
      | some test => arguments.map fun argument => .branch test argument (.literal .null)
    match summary with
    | .least => [((.lt, collation), picked)]
    | .greatest => [((.gt, collation), picked)]
    | _ => []
end

namespace Meaning

def misused : Fault := "row value misused"

/-- The meaning of what has to be a single datum. -/
def single (meaning : Meaning) : Except Fault Meaning :=
  if meaning.fields.isEmpty then .ok meaning
  else if meaning.isQuery then
    .error ("sub-select returns " ++ toString meaning.fields.length ++ " columns - expected 1")
  else .error misused

/-- The meaning of an expression with several parts. -/
def whole (term : Term) (parts : List Meaning) : Meaning :=
  { term, sense := Sense.gathered (parts.map Meaning.sense), summaries := parts.flatMap Meaning.summaries
    windowed := parts.any Meaning.windowed }

/-- What a function gives can be of any class. -/
def ofAnyClass (meaning : Meaning) : Meaning :=
  { meaning with sense := { meaning.sense with numbers := true, texts := true } }

/-- The meaning of an expression with one part. -/
def part (make : Term → Term) (inside : Meaning) : Meaning := whole (make inside.term) [inside]

def operate (make : Term → Term → Term) (left right : Meaning) : Meaning :=
  whole (make left.term right.term) [left, right]

/-- The negation if one is asked for. -/
def negatedIf (negated : Bool) (meaning : Meaning) : Meaning :=
  if negated then { meaning with term := .not meaning.term } else meaning

/-- The data of a row, or a single one. -/
def columns (meaning : Meaning) : List (Term × Sense) :=
  if meaning.fields.isEmpty then [(meaning.term, meaning.sense)] else meaning.fields

/-- Two terms that are compared, and how. -/
structure Pair where
  likeness : Likeness
  left : Term
  right : Term

/-- What is compared in turn of two rows, or of two data. -/
def pairs (left right : Meaning) : Except Fault (List Pair) :=
  if left.columns.length ≠ right.columns.length then .error misused
  else .ok ((left.columns.zip right.columns).map fun (a, b) => ⟨a.2.likeness b.2, a.1, b.1⟩)

/-- Whether all hold, one after the other. -/
def allOf : List Term → Term
  | [] => .literal (.int 1)
  | [term] => term
  | term :: rest => .and term (allOf rest)

def anyOf : List Term → Term
  | [] => .literal (.int 0)
  | [term] => term
  | term :: rest => .or term (anyOf rest)

/-- The relation that the first difference has to be in. -/
def strict : Relation → Relation
  | .lte => .lt
  | .gte => .gt
  | relation => relation

/-- The comparison of rows by their first difference. -/
def ordered (relation : Relation) : List Pair → Term
  | [] => .literal (.int 1)
  | [pair] => .versus pair.likeness relation pair.left pair.right
  | pair :: rest =>
    .or (.versus pair.likeness (strict relation) pair.left pair.right)
      (.and (.versus pair.likeness .eq pair.left pair.right) (ordered relation rest))

/-- The comparison of rows. -/
def compared (relation : Relation) (pairs : List Pair) : Term :=
  match relation with
  | .eq => allOf (pairs.map fun pair => .versus pair.likeness .eq pair.left pair.right)
  | .notEq => anyOf (pairs.map fun pair => .versus pair.likeness .notEq pair.left pair.right)
  | relation => ordered relation pairs

def versus (relation : Relation) (left right : Meaning) : Except Fault Meaning := do
  return whole (compared relation (← pairs left right)) [left, right]

def same (left right : Meaning) : Except Fault Meaning := do
  return whole (allOf ((← pairs left right).map fun pair => .same pair.likeness pair.left pair.right)) [left, right]

def between (inside low high : Meaning) : Except Fault Meaning := do
  let parts := [inside, low, high]
  if parts.all fun meaning => meaning.fields.isEmpty then
    return whole (.between (inside.sense.likeness low.sense) (inside.sense.likeness high.sense) inside.term low.term
      high.term) parts
  else
    return whole (.and (compared .gte (← pairs inside low)) (compared .lte (← pairs inside high))) parts

/-- Refuses a row of another length than the others. -/
def checkItem (inside other : Meaning) : Except Fault Unit :=
  let count := other.columns.length
  if inside.fields.isEmpty then discard other.single
  else if count = inside.fields.length then .ok ()
  else
    .error ("IN(...) element has " ++ toString count ++ (if count = 1 then " term" else " terms") ++ " - expected " ++
      toString inside.fields.length)

/-- Whether a datum, or a row, is one of those listed. -/
def among (inside : Meaning) (others : List Meaning) : Except Fault Meaning := do
  others.forM (checkItem inside)
  if inside.fields.isEmpty then
    return whole (.among (inside.sense.likeness {}) inside.term (others.map Meaning.term)) (inside :: others)
  else
    let tests ← others.mapM fun other => return compared .eq (← pairs inside other)
    return whole (anyOf tests) (inside :: others)

/-- A place where a row or a single datum is compared with the columns of a query. -/
def amongRows (inside : Meaning) (plan : Plan) (senses : List Sense) : Except Fault Meaning :=
  let columns := inside.columns
  if columns.length ≠ senses.length then
    .error ("sub-select returns " ++ toString senses.length ++ " columns - expected " ++ toString columns.length)
  else
    .ok (whole (.amongRows ((columns.zip senses).map fun (column, sense) => column.2.likeness sense)
      (columns.map Prod.fst) plan) [inside])

/-- The first row of a query's result. -/
def first (plan : Plan) (senses : List Sense) : Meaning :=
  let fields := senses.zipIdx.map fun (sense, index) => (Term.first plan index, Sense.ofAffinity sense.affinity)
  { term := .first plan 0, sense := .ofAffinity (senses.headD {}).affinity
    fields := if senses.length = 1 then [] else fields, isQuery := true }

/-- The level whose rows a summary is of: the innermost that it reads columns of. -/
def summaryLevel (depth : Nat) (terms : List Term) : Nat :=
  match ((Term.allColumns terms).map Prod.fst).filter (· ≤ depth) with
  | [] => depth
  | levels => levels.foldl max 0

def directionOf (meaning : Meaning) (order : Order) (nullsLast : Option Bool) : Direction :=
  ⟨meaning.sense.orBinary, order, nullsLast⟩

/-- A summary of a group. -/
def summarized (depth : Nat) (name : String) (summary : Summary) (distinct : Bool) (arguments : List Meaning)
    (test : Option Meaning) (sorts : List (Meaning × Direction)) : Meaning :=
  let parts := arguments ++ test.toList ++ sorts.map Prod.fst
  let collation := ((arguments.findSome? fun argument => argument.sense.collation)).getD .binary
  let level := summaryLevel depth (parts.map Meaning.term)
  { whole (.summary level ⟨summary, distinct, collation, arguments.map Meaning.term, test.map Meaning.term,
      sorts.map fun sort => sort.1.term, sorts.map Prod.snd⟩) parts with
    summaries := (level, name) :: parts.flatMap Meaning.summaries }

/-- A function of a window, which becomes a column after those that rows have by themselves. -/
def ofWindow (function : WindowFunction) (arguments : List Meaning) (test : Option Meaning) (window : WindowMeaning) :
    Windowed :=
  let (unit, first, last, exclusion) := match window.extent, function with
    | some extent, .summary .. | some extent, .first | some extent, .last | some extent, .nth => extent
    | _, _ => (.range, .start, .here, .unsaid)
  { function, arguments := arguments.map Meaning.term, test := test.map Meaning.term
    partitions := window.partitions.map Meaning.term
    partitionDirections := window.partitions.map fun meaning => meaning.directionOf .asc none
    sorts := window.sorts.map fun sort => sort.1.term, directions := window.sorts.map Prod.snd, unit, first, last
    exclusion }

/-- Refuses frames that are counted from keys where there is not one key. -/
def checkExtent (window : WindowMeaning) : Except Fault Unit :=
  let isAway (edge : EdgeTerm) : Bool := match edge with
    | .before _ | .after _ => true
    | _ => false
  match window.extent with
  | some (.range, first, last, _) =>
    if (isAway first || isAway last) && window.sorts.length ≠ 1 then
      .error "RANGE with offset PRECEDING/FOLLOWING requires one ORDER BY expression"
    else .ok ()
  | _ => .ok ()

/-- A window made from one that has a name. -/
def basedOn (name : String) (base own : WindowMeaning) : Except Fault WindowMeaning :=
  let override (part : String) : Except Fault WindowMeaning :=
    .error ("cannot override " ++ part ++ " of window: " ++ name)
  if !own.partitions.isEmpty then override "PARTITION clause"
  else if !base.sorts.isEmpty && !own.sorts.isEmpty then override "ORDER BY clause"
  else if base.extent.isSome then override "frame specification"
  else .ok { base with sorts := if own.sorts.isEmpty then base.sorts else own.sorts, extent := own.extent }

/-- The window of a name. -/
def namedWindow (windows : List (String × Except Fault WindowMeaning)) (name : String) : Except Fault WindowMeaning :=
  match windows.find? fun entry => Name.alike entry.1 name with
  | some (_, found) => found
  | none => .error ("no such window: " ++ name)

end Meaning

/-- A column of a result: its label if it is given one, what it is, and how that is written. -/
structure ResultMeaning where
  label : Option String
  meaning : Meaning
  source : String := ""

namespace ResultMeaning

def name (result : ResultMeaning) : String := (result.label <|> result.meaning.column).getD result.source

def labels (results : List ResultMeaning) : List (String × Meaning) :=
  results.filterMap fun result => result.label.map fun label => (label, result.meaning)

/-- The columns that a star stands for. -/
def ofHeadings (depth : Nat) (isAll : Bool) (columns : List (Heading × Nat)) : List ResultMeaning :=
  (columns.filter fun column => !column.1.isHidden && !(isAll && column.1.isShared)).map fun (heading, index) =>
    ⟨some heading.name, heading.meaning depth index isAll, heading.name⟩

/-- A place in the order of things, as it is written. -/
def ordinal (n : Nat) : String := toString n ++ String.ofList (Format.Place.ordinalEnd n)

def outOfRange (clause : String) (index count : Nat) : Fault :=
  ordinal (index + 1) ++ " " ++ clause ++ " BY term out of range - should be between 1 and " ++ toString count

/-- The integer that an expression is, beneath a collation. -/
def place? : Expression → Option Int
  | .literal (.int n) => some n.toInt
  | .bare inside => place? inside
  | .negate inside => (place? inside).map fun n => -n
  | .collate _ inside => place? inside
  | _ => none

/-- The collation that is written around an expression. -/
def collationOf? : Expression → Option String
  | .collate name _ => some name
  | _ => none

/-- The label that an expression is, beneath a collation. -/
def label? : Expression → Option String
  | .name [name] _ => some name
  | .collate _ inside => label? inside
  | _ => none

end ResultMeaning

def collation (name : String) : Except Fault Collation :=
  match Collation.ofName? name with
  | some found => .ok found
  | none => .error ("no such collation sequence: " ++ name)

end RecordMapper
