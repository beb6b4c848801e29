import RecordMapper.Relational.Meaning.Basic
import RecordMapper.Relational.Scan

/-! From expressions and queries as they are written to terms and plans. -/

namespace RecordMapper

/-- A query once its names are known. -/
structure Prepared where
  plan : Plan
  level : Level
  /-- The columns of the result. -/
  results : List ResultMeaning
  /-- What is known of the columns. -/
  senses : List Sense
  /-- What is known of the columns of its last part. -/
  lastSenses : List Sense
  /-- The levels around the query whose groups it summarizes. -/
  summaries : List (Nat × String)

/-- Names of which none is like another: one that comes again gets a number. -/
def uniqueNames (taken : List String) : List String → List String
  | [] => []
  | name :: rest =>
    let isTaken (name : String) : Bool := taken.any (Name.alike name)
    let numbered := (List.range (taken.length + 1)).map fun n => name ++ ":" ++ toString (n + 1)
    let own := if isTaken name then (numbered.find? fun other => !isTaken other).getD name else name
    own :: uniqueNames (own :: taken) rest

namespace Prepared

/-- The names of the result's columns. -/
def names (prepared : Prepared) : List String := prepared.results.map ResultMeaning.name

/-- The query as another one reads it. -/
def common (depth : Nat) (prepared : Prepared) : CommonRows where
  rowset := .plan (prepared.senses.map fun sense => sense.column.affinity) (.within depth prepared.plan)
  names := uniqueNames [] prepared.names
  senses := prepared.senses.map Sense.column

end Prepared

namespace CommonRows

def headings (owner : Option String) (rows : CommonRows) : List Heading :=
  (rows.names.zip rows.senses).map fun (name, sense) => { owner, name, sense }

/-- Gives columns other names, as many as there are. -/
def renamed (table : String) (columns : Option (List String)) (rows : CommonRows) : Except Fault CommonRows :=
  match columns with
  | none => .ok rows
  | some names =>
    if names.length = rows.names.length then .ok { rows with names := uniqueNames [] names }
    else
      .error ("table " ++ table ++ " has " ++ toString rows.names.length ++ " values for " ++ toString names.length ++
        " columns")

end CommonRows

namespace Around

/-- The number of queries around. -/
def depth (around : Around) : Nat := around.scope.length - 1

def innermost (around : Around) : Level := around.scope.getLastD { header := [] }

/-- What is known in a query inside another one. -/
def inward (around : Around) : Around :=
  { around with
    common := around.common.map fun common =>
      if common.isOpen then
        { common with found := .error ("recursive reference in a subquery: " ++ common.name) }
      else common
    summing := false, windowing := false }

/-- What is known where no query around counts. -/
def alone (around : Around) : Around :=
  { around with scope := around.scope.dropLast.map (fun _ => { header := [] }) ++ [around.innermost] }

def nowhere (around : Around) : Around := { around with scope := [], summing := false, windowing := false }

/-- The query of a name, if there is one. -/
def common? (around : Around) (table : TableRef) : Option Common :=
  if table.database.isSome then none else around.common.find? fun common => Name.alike common.name table.name

/-- The columns of a table or of a query with a name. -/
def headings (around : Around) (table : TableRef) (aliasName : Option String) : Except Fault (List Heading) := do
  match around.common? table with
  | some common => return (← common.found).headings (some (aliasName.getD table.name))
  | none =>
    let found ← around.tables.find table
    return found.headings (aliasName.getD found.name)

def rowset (around : Around) (table : TableRef) : Except Fault Rowset := do
  match around.common? table with
  | some common => return (← common.found).rowset
  | none =>
    let found ← around.tables.find table
    return .rows found.allColumns.length found.frames

end Around

/-- The function whose rows an origin has. -/
def tableFunction (name : String) (count : Nat) : Except Fault TableFunction :=
  match TableFunction.find? name with
  | none => .error ("no such table: " ++ name)
  | some function =>
    if TableFunction.greatestArguments < count then
      .error ("too many arguments on " ++ name ++ "() - max " ++ toString TableFunction.greatestArguments)
    else .ok function

/-! Columns that two origins share. -/

namespace Heading

/-- The places of the columns of a name on the left and the right. -/
def shared (left right : List Heading) (name : String) : Except Fault (Nat × Nat) :=
  let place? (header : List Heading) : Option Nat :=
    header.findIdx? fun heading => !heading.isHidden && !heading.isShared && Name.alike heading.name name
  match place? left, place? right with
  | some a, some b => .ok (a, b)
  | _, _ => .error ("cannot join using column " ++ name ++ " - column not present in both tables")

/-- The names that columns on both sides have. -/
def commonNames (left right : List Heading) : List String :=
  let own (heading : Heading) : Bool := !heading.isHidden && !heading.isShared
  ((right.filter own).map Heading.name).filter fun name =>
    left.any fun heading => own heading && Name.alike heading.name name

/-- Columns side by side; those on the right that are shared are meant by the names of those on the left. -/
def joined (keepsRight : Bool) (left right : List Heading) (shared : List (Nat × Nat)) : List Heading :=
  (left.zipIdx.map fun (heading, index) =>
    { heading with
      partners := heading.partners ++
        if keepsRight then (shared.filter fun pair => pair.1 = index).map fun pair => left.length + pair.2 else [] }) ++
  right.zipIdx.map fun (heading, index) =>
    { heading with
      isShared := heading.isShared || shared.any fun pair => pair.2 = index
      partners := heading.partners.map (left.length + ·) }

/-- The pairs of columns that a rule makes equal. -/
def sharedBy (left right : List Heading) : JoinRule → Except Fault (List (Nat × Nat))
  | .sharing names => names.mapM (shared left right)
  | .natural => (commonNames left right).mapM (shared left right)
  | _ => .ok []

/-- The test that shared columns are equal. -/
def sharedTest (depth : Nat) (left right : List Heading) (pairs : List (Nat × Nat)) : Term :=
  Meaning.allOf (pairs.map fun (a, b) =>
    let before := ((left[a]?).getD { owner := none, name := "" }).meaning depth a true
    let after := ((right[b]?).getD { owner := none, name := "" }).sense
    .versus (before.sense.likeness after) .eq before.term (.column depth (left.length + b)))

end Heading

/-- Whether an expression is a column of the only table that is read, one that passes a test. -/
def Meaning.isColumn (origin : Option Origin) (header : List Heading) (depth : Nat) (test : Heading → Bool)
    (meaning : Meaning) : Bool :=
  match origin, meaning.term with
  | some (.table ..), .column level index => level = depth && header[index]?.any test
  | _, _ => false

/-- Keys of groups, each with its direction. They go the way that as many sort keys go. If each row is a group by
its own number, rows stay in the order of that, and in the order of their key if they are grouped by that alone. -/
def groupKeys (is : (Heading → Bool) → Meaning → Bool) (groups : List Meaning) (orders : List Order) :
    List (Meaning × Order) :=
  match groups.filter (is Heading.isRowKey), groups with
  | [], [key] => [(key, if is Heading.isKey key then .asc else if orders.length = 1 then orders.headD .asc else .asc)]
  | [], _ => groups.zip (if groups.length = orders.length then orders else groups.map fun _ => .asc)
  | keys, _ => keys.map fun key => (key, .asc)

/-- Refuses a summary of the level's own groups in what is found out before there are any. -/
def Meaning.checkUngrouped (depth : Nat) (meaning : Meaning) : Except Fault Unit :=
  match meaning.summaries.find? fun entry => entry.1 = depth with
  | some (_, name) => .error ("misuse of aggregate: " ++ name ++ "()")
  | none => .ok ()

namespace ResultMeaning

/-- The column of the result that an integer stands for, or, where labels count, a name. -/
def place (clause : String) (byLabel : Bool) (results : List ResultMeaning) (index : Nat) (expression : Expression) :
    Except Fault (Option Nat) :=
  match place? expression, label? expression with
  | some n, _ =>
    if 1 ≤ n ∧ n ≤ results.length then .ok (some (n.toNat - 1)) else .error (outOfRange clause index results.length)
  | none, some name =>
    .ok (if byLabel then results.findIdx? fun result => result.label.any (Name.alike name) else none)
  | none, none => .ok none

/-- The meaning of a column of the result, with the collation that is written around its place. -/
def placed (results : List ResultMeaning) (expression : Expression) (place : Nat) : Except Fault Meaning := do
  let meaning ← ((results[place]?).map ResultMeaning.meaning |>.getD { term := .literal .null }).single
  match collationOf? expression with
  | none => return meaning
  | some name => return { meaning with sense := { meaning.sense with collation := some (← collation name), explicit := true } }

end ResultMeaning

/-- A query of rows once its names are known, but for how its result is cut. -/
structure Sketch where
  level : Level
  results : List ResultMeaning
  rowset : Rowset
  filter : Option Meaning
  groups : List Meaning
  having : Option Meaning
  windows : List Windowed
  /-- What the result is sorted by, and which of that are columns of it. -/
  sorts : List (Meaning × Bool × Direction)
  origin : Option Origin
  distinct : Bool
  depth : Nat

namespace Sketch

/-- Whether rows of groups are summarized. -/
def summing (sketch : Sketch) : Bool :=
  !sketch.groups.isEmpty ||
    sketch.results.any fun result => result.meaning.summaries.any fun entry => entry.1 = sketch.depth

/-- How the rows of the result are made. -/
def projection (sketch : Sketch) : Projection :=
  let sorts := sketch.sorts
  let terms := sketch.results.map fun result => result.meaning.term
  let picking := terms ++ (sorts.filter fun (_, placed, _) => !placed).map (fun (meaning, _, _) => meaning.term) ++
    (sketch.having.map Meaning.term).toList
  let pick := (Term.allPicks sketch.depth picking).getLast?
  let orders := sorts.map fun (_, _, direction) => direction.order
  let groups := groupKeys (Meaning.isColumn sketch.origin sketch.level.header sketch.depth) sketch.groups orders
  { columns := terms
    collations := sketch.results.map fun result => result.meaning.sense.orBinary
    distinct := sketch.distinct
    groups := if sketch.summing then some (groups.map fun (group, _) => group.term) else none
    groupDirections := groups.map fun (group, order) => group.directionOf order none
    pick := pick.map Prod.fst
    picked := (pick.map Prod.snd).getD []
    having := sketch.having.map Meaning.term
    windows := sketch.windows
    sorts := sorts.map fun (meaning, _, _) => meaning.term
    directions := sorts.map fun (_, _, direction) => direction }

/-- The column by which equal rows of the result are told apart first. -/
def leading? (sketch : Sketch) : Option Nat :=
  match sketch.distinct && !sketch.summing && sketch.sorts.isEmpty && sketch.windows.isEmpty, sketch.results with
  | true, first :: _ =>
    match first.meaning.term with
    | .column level index => if level = sketch.depth then some index else none
    | _ => none
  | _, _ => none

/-- The rows that are read, in their order, with what is asked for of them. -/
def scanned (sketch : Sketch) : Rowset :=
  let filter := sketch.filter.map Meaning.term
  let columns := sketch.projection.reads sketch.depth ++ Term.givenRead sketch.depth filter ++
    sketch.rowset.reads sketch.depth
  match sketch.rowset with
  | .plan affinities plan => .plan affinities (plan.asked columns)
  | rowset => rowset.scanned sketch.level.header { level := sketch.depth, filter, columns, leading := sketch.leading? } 0

/-- The query whose result is cut. -/
def finish (sketch : Sketch) (limit offset : Option Term) : Prepared :=
  let all := sketch.results.map ResultMeaning.meaning ++ sketch.sorts.map Prod.fst ++ sketch.groups ++
    sketch.filter.toList ++ sketch.having.toList
  { plan := .one sketch.scanned (sketch.filter.map Meaning.term) sketch.projection limit offset
    level := sketch.level
    results := sketch.results
    senses := sketch.results.map fun result => result.meaning.sense
    lastSenses := sketch.results.map fun result => result.meaning.sense
    summaries := (all.flatMap Meaning.summaries).filter fun entry => entry.1 < sketch.depth }

end Sketch

/-- What is known in a query, but for the labels of its result. -/
def Around.inside (around : Around) (sketch : Sketch) : Around :=
  { around with scope := around.scope ++ [{ sketch.level with labels := [] }] }

/-- Whether two terms are the same column or the same datum. -/
def Term.isSame : Term → Term → Bool
  | .column a b, .column c d => a = c && b = d
  | .literal a, .literal b => a = b
  | _, _ => false

namespace Prepared

/-- The result of two queries put together. -/
def put (before : Prepared) (operation : SetOperation) (after : Prepared) : Except Fault Prepared :=
  if before.senses.length ≠ after.senses.length then
    .error ("SELECTs to the left and right of " ++ operation.name ++ " do not have the same number of result columns")
  else
    let senses := (before.senses.zip after.senses).map fun (a, b) => a.either b
    .ok { before with
      plan := .both operation (senses.map Sense.orBinary) before.plan after.plan
      senses
      lastSenses := after.senses
      summaries := before.summaries ++ after.summaries }

/-- The results of queries put together from the left. -/
def chain (first : Prepared) (others : List (SetOperation × Prepared)) : Except Fault Prepared :=
  others.foldlM (fun before (operation, after) => put before operation after) first

end Prepared

/-- How often an origin reads a table of a name by itself. -/
def Origin.readings (name : String) : Origin → Nat
  | .table found _ => if found.database.isNone && Name.alike found.name name then 1 else 0
  | .join _ _ left right _ => left.readings name + right.readings name
  | _ => 0

/-- How often a part of a query reads a table of a name by itself. -/
def Addition.readings (name : String) (addition : Addition) : Nat :=
  match addition.select.origin with
  | some origin => origin.readings name
  | none => 0

/-- The number of last parts that follow from rows of the query that they belong to. -/
def Addition.stepCount (name : String) (additions : List Addition) : Nat :=
  let last := additions.getLast?.map Addition.operation
  if last = some .union || last = some .unionAll then
    (additions.reverse.takeWhile fun addition => some addition.operation = last && 0 < addition.readings name).length
  else 0

/-- The number of last parts of a query with a name that follow from its own rows. -/
def CommonTable.steps (name : String) (query : Compound) : Nat :=
  if query.common.isEmpty then Addition.stepCount name query.additions else 0

/-- The first name that comes twice. -/
def repeated? : List String → Option String
  | [] => none
  | name :: rest => if rest.any (Name.alike name) then some name else repeated? rest

/-- Adds queries with names to what is known, in as many rounds as there are. One that reads itself in a circle is never
known. -/
def Around.withCommon (around : Around) (names : List String) (round : List Common → List Common) :
    Except Fault Around :=
  match repeated? names with
  | some name => .error ("duplicate WITH table name: " ++ name)
  | none =>
    let start := names.map fun name => ({ name, found := .error ("circular reference: " ++ name : String) } : Common)
    .ok { around with common := names.foldl (fun known _ => round known) start ++ around.common }

/-- Refuses what cannot follow from a row. -/
def Sketch.checkStep (sketch : Sketch) : Except Fault Unit :=
  if sketch.summing then .error "recursive aggregate queries not supported"
  else if !sketch.windows.isEmpty then .error "cannot use window functions in recursive queries"
  else .ok ()

mutual
/-- What an expression means. -/
def Expression.meaning (around : Around) : Expression → Naming Meaning
  | .name parts quoted => do around.scope.find around.windowing parts quoted
  | .literal datum => return { term := .literal datum, sense := .ofDatum datum }
  | .row items => do
    let fields ← (← Expression.meanings around items).mapM fun meaning => meaning.single
    return { Meaning.whole (.literal .null) fields with fields := fields.map fun meaning => (meaning.term, meaning.sense) }
  | .bare inside => do
    let inside ← (← inside.meaning around).single
    return { Meaning.part id inside with sense := { inside.sense with affinity := .none } }
  | .negate inside => return Meaning.part .negate (← (← inside.meaning around).single)
  | .complement inside => return Meaning.part .complement (← (← inside.meaning around).single)
  | .not inside => return Meaning.part .not (← (← inside.meaning around).single)
  | .null negated inside => return (Meaning.part .null (← (← inside.meaning around).single)).negatedIf negated
  | .and left right => do
    if left.isZero || right.isZero then return { term := .literal (.int 0) }
    let left ← (← left.meaning around).single
    return Meaning.operate .and left (← (← right.meaning around).single)
  | .or left right => do
    let left ← (← left.meaning around).single
    return Meaning.operate .or left (← (← right.meaning around).single)
  | .versus relation left right => do
    let left ← left.meaning around
    Meaning.versus relation left (← right.meaning around)
  | .same negated left right => do
    let left ← left.meaning around
    return (← Meaning.same left (← right.meaning around)).negatedIf negated
  | .operate operator left right => do
    let left ← (← left.meaning around).single
    let meaning := Meaning.operate (.operate operator) left (← (← right.meaning around).single)
    let isJoin := operator = .join
    return { meaning with sense := { meaning.sense with numbers := !isJoin, texts := isJoin } }
  | .between negated inside low high => do
    let inside ← inside.meaning around
    let low ← low.meaning around
    return (← Meaning.between inside low (← high.meaning around)).negatedIf negated
  | .among negated _ [] => return { term := .literal (.int (if negated then 1 else 0)) }
  | .among negated inside others => do
    let inside ← inside.meaning around
    return (← Meaning.among inside (← Expression.meanings around others)).negatedIf negated
  | .amongRows negated inside query => do
    let inside ← inside.meaning around
    let prepared ← query.prepare around.inward
    let meaning ← Meaning.amongRows inside prepared.plan prepared.lastSenses
    return { (meaning.negatedIf negated) with summaries := meaning.summaries ++ prepared.summaries }
  | .branch test yes no => do
    let test ← (← test.meaning around).single
    let yes ← (← yes.meaning around).single
    let no ← (← no.meaning around).single
    let meaning := Meaning.whole (.branch test.term yes.term no.term) [test, yes, no]
    let either := yes.sense.either no.sense
    return { meaning with sense := { meaning.sense with numbers := either.numbers, texts := either.texts } }
  | .call name distinct arguments sorts test window => do
    let found := Call.find ⟨name, arguments.length, distinct, !sorts.isEmpty, test.isSome, window.isSome, around.summing,
      around.windowing⟩
    let inner : Around := match found with
      | .ok (.scalar _) => around
      | _ => { around with windowing := false, summing := around.summing && window.isSome }
    let arguments ← (← Expression.meanings inner arguments).mapM fun meaning => meaning.single
    let test ← (← Expression.meaning? inner test).mapM fun meaning => meaning.single
    let sorts ← Sorting.meanings inner sorts
    match ← found, ← WindowUse.meaning inner window with
    | .summary summary, none =>
      return (Meaning.summarized around.depth name summary distinct arguments test sorts).ofAnyClass
    | .scalar function, none =>
      let collation := ((arguments.findSome? fun argument => argument.sense.collation)).getD .binary
      return (Meaning.whole (.apply function collation (arguments.map Meaning.term)) arguments).ofAnyClass
    | call, window =>
      let collation := ((arguments.findSome? fun argument => argument.sense.collation)).getD .binary
      let function := match call with
        | .window function => function
        | .summary summary => .summary summary collation
        | .scalar _ => .rowNumber
      let window := window.getD {}
      Meaning.checkExtent window
      let index := (← get).length
      modify fun windows => windows ++ [Meaning.ofWindow function arguments test window]
      let parts := arguments ++ test.toList ++ window.partitions ++ window.sorts.map Prod.fst
      let term := Term.column around.depth (around.innermost.header.length + index)
      return { (Meaning.whole term parts).ofAnyClass with windowed := true }
  | .cast affinity inside => do
    let inside ← (← inside.meaning around).single
    let own := Sense.ofAffinity affinity
    return { Meaning.part (.cast affinity) inside with
      sense := { inside.sense with affinity, numbers := own.numbers, texts := own.texts } }
  | .collate name inside => do
    let inside ← (← inside.meaning around).single
    let collation ← collation name
    return { inside with sense := { inside.sense with collation := some collation, explicit := true }, column := none }
  | .first query => do
    let prepared ← query.prepare around.inward
    return { Meaning.first prepared.plan prepared.lastSenses with summaries := prepared.summaries }
  | .exists query => do
    let prepared ← query.prepare around.inward
    return { term := .exists prepared.plan, summaries := prepared.summaries }

def Expression.meanings (around : Around) : List Expression → Naming (List Meaning)
  | [] => return []
  | expression :: rest => do
    let first ← expression.meaning around
    return first :: (← Expression.meanings around rest)

/-- The meaning of an expression that may be missing. -/
def Expression.meaning? (around : Around) : Option Expression → Naming (Option Meaning)
  | none => return none
  | some expression => return some (← expression.meaning around)

/-- Keys to sort by. -/
def Sorting.meanings (around : Around) : List Sorting → Naming (List (Meaning × Direction))
  | [] => return []
  | ⟨expression, order, nullsLast⟩ :: rest => do
    let meaning ← (← expression.meaning around).single
    return (meaning, meaning.directionOf order nullsLast) :: (← Sorting.meanings around rest)

/-- An edge of a frame. How far it is away does not depend on rows. -/
def Bound.meaning (around : Around) : Bound → Naming EdgeTerm
  | .start => return .start
  | .before count => return .before ((← (← count.meaning around.nowhere).single).term)
  | .here => return .here
  | .after count => return .after ((← (← count.meaning around.nowhere).single).term)
  | .finish => return .finish

def Extent.meaning (around : Around) :
    Option Extent → Naming (Option (FrameUnit × EdgeTerm × EdgeTerm × Exclusion))
  | none => return none
  | some ⟨unit, first, last, exclusion⟩ => do
    let first ← first.meaning around
    return some (unit, first, ← last.meaning around, exclusion)

/-- A window, which can be made from one of those that have a name. -/
def Window.meaning (around : Around) (windows : List (String × Except Fault WindowMeaning)) :
    Window → Naming WindowMeaning
  | ⟨base, partitions, sorts, extent, isPlain⟩ => do
    let partitions ← (← Expression.meanings around partitions).mapM fun meaning => meaning.single
    let own : WindowMeaning := ⟨partitions, ← Sorting.meanings around sorts, ← Extent.meaning around extent⟩
    match base with
    | none => return own
    | some name =>
      let found ← Meaning.namedWindow windows name
      if isPlain then return found else Meaning.basedOn name found own

/-- The window of a function that may have none. -/
def WindowUse.meaning (around : Around) : Option Window → Naming (Option WindowMeaning)
  | none => return none
  | some window => return some (← window.meaning around around.innermost.windows)

/-- Windows with names, each of which can be made from one before it. -/
def NamedWindow.meanings (around : Around) (before : List (String × Except Fault WindowMeaning)) :
    List NamedWindow → List (String × Except Fault WindowMeaning)
  | [] => before
  | ⟨name, window⟩ :: rest =>
    let found := ((window.meaning around before).run []).map Prod.fst
    NamedWindow.meanings around (before ++ [(name, found)]) rest

/-- The columns of an origin. -/
def Origin.header (around : Around) : Origin → Except Fault (List Heading)
  | .table table aliasName => around.headings table aliasName
  | .query query aliasName => do
    let prepared ← query.prepare around.inward
    return (prepared.common around.scope.length).headings aliasName
  | .call name arguments aliasName => do
    discard (tableFunction name arguments.length)
    return TableFunction.columns.map fun column => { owner := some (aliasName.getD name), name := column }
  | .join _ keepsRight left right rule => do
    let left ← left.header around
    let right ← right.header around
    return Heading.joined keepsRight left right (← Heading.sharedBy left right rule)

/-- The rows of an origin at a level. -/
def Origin.rowset (around : Around) (level : Level) : Origin → Except Fault Rowset
  | .table table _ => around.rowset table
  | .query query _ => do
    let prepared ← query.prepare around.inward
    return (prepared.common around.scope.length).rowset
  | .call name arguments _ => do
    let inner := { around with scope := around.scope ++ [level] }
    let (found, _) ← (Expression.meanings inner arguments).run []
    let found ← found.mapM fun meaning => meaning.single
    return .call (← tableFunction name arguments.length) (found.map Meaning.term)
  | .join keepsLeft keepsRight left right rule => do
    let header ← left.header around
    let other ← right.header around
    let inner := { around with scope := around.scope ++ [level] }
    let test ← JoinRule.test inner header other around.scope.length rule
    let rightLevel := match right with
      | .join .. => { level with header := other }
      | _ => level
    return .join keepsLeft keepsRight (← left.rowset around level) (← right.rowset around rightLevel) test

/-- The test that partners have to pass. -/
def JoinRule.test (inner : Around) (left right : List Heading) (depth : Nat) : JoinRule → Except Fault Term
  | .free => .ok (.literal (.int 1))
  | .on test => do
    let (meaning, _) ← (test.meaning inner).run []
    return (← meaning.single).term
  | .sharing names => return Heading.sharedTest depth left right (← Heading.sharedBy left right (.sharing names))
  | .natural => return Heading.sharedTest depth left right (← Heading.sharedBy left right .natural)

/-- The columns of an origin that may be missing. -/
def Origin.header? (around : Around) : Option Origin → Except Fault (List Heading)
  | none => .ok []
  | some origin => origin.header around

/-- The rows of an origin; without one, a single row of nothing. -/
def Origin.rowset? (around : Around) (level : Level) : Option Origin → Except Fault Rowset
  | none => .ok (.rows 0 [[]])
  | some origin => origin.rowset around level

/-- The columns that a query has in its result for what it names. -/
def ResultColumn.meanings (around : Around) : ResultColumn → Naming (List ResultMeaning)
  | .all =>
    if around.innermost.header.isEmpty then Fault.refuse "no tables specified"
    else return ResultMeaning.ofHeadings around.depth true around.innermost.header.zipIdx
  | .allOf owner => do
    match around.innermost.header.zipIdx.filter fun (heading, _) => heading.belongs [owner] with
    | [] => Fault.refuse ("no such table: " ++ owner)
    | columns => return ResultMeaning.ofHeadings around.depth false columns
  | .one expression label source => do
    return [⟨label, ← expression.meaning around, source⟩]

def ResultColumn.allMeanings (around : Around) : List ResultColumn → Naming (List ResultMeaning)
  | [] => return []
  | column :: rest => do
    let first ← column.meanings around
    return first ++ (← ResultColumn.allMeanings around rest)

/-- Keys of groups: columns of the result by their place, or expressions. -/
def Expression.groupMeanings (around : Around) (results : List ResultMeaning) (index : Nat) :
    List Expression → Naming (List Meaning)
  | [] => return []
  | expression :: rest => do
    let meaning ← match ← ResultMeaning.place "GROUP" false results index expression with
      | some place => do (ResultMeaning.placed results expression place)
      | none => do (← expression.meaning around).single
    if meaning.summaries.any fun entry => entry.1 = around.depth then
      Fault.refuse "aggregate functions are not allowed in the GROUP BY clause"
    return meaning :: (← Expression.groupMeanings around results (index + 1) rest)

/-- Keys to sort a result by, and whether each is a column of it: by its label or place, or else expressions. -/
def Sorting.resultMeanings (around : Around) (results : List ResultMeaning) (index : Nat) :
    List Sorting → Naming (List (Meaning × Bool × Direction))
  | [] => return []
  | ⟨expression, order, nullsLast⟩ :: rest => do
    let (meaning, placed) ← match ← ResultMeaning.place "ORDER" true results index expression with
      | some place => do pure (← ResultMeaning.placed results expression place, true)
      | none => do pure (← (← expression.meaning around).single, false)
    return (meaning, placed, meaning.directionOf order nullsLast) ::
      (← Sorting.resultMeanings around results (index + 1) rest)

/-- What a query of rows means among the queries around it. What its result is sorted by is found out before its
groups are. -/
def Select.sketch (around : Around) (sorts : Around → List ResultMeaning → Naming (List (Meaning × Bool × Direction))) :
    Select → Except Fault Sketch
  | ⟨distinct, columns, origin, filter, groups, having, windows⟩ => do
    let header ← Origin.header? around origin
    let depth := around.scope.length
    let own (level : Level) : Around := { around with scope := around.scope ++ [level] }
    let windows := NamedWindow.meanings { own { header } with summing := true } [] windows
    let (results, found) ← (ResultColumn.allMeanings { own { header, windows } with summing := true, windowing := true }
      columns).run []
    let level : Level := { header, labels := ResultMeaning.labels results, windows }
    let summing := !groups.isEmpty ||
      results.any fun result => result.meaning.summaries.any fun entry => entry.1 = depth
    if having.isSome && !summing then Fault.refuse "HAVING clause on a non-aggregate query"
    let (having, _) ← (Expression.meaning? { own level with summing } having).run []
    let having ← having.mapM fun meaning => meaning.single
    let (filter, _) ← (Expression.meaning? { own level with summing } filter).run []
    let filter ← filter.mapM fun meaning => meaning.single
    let rowset ← Origin.rowset? around level origin
    let alone := (own level).alone
    let (sorts, found) ← (sorts { alone with summing := true, windowing := true } results).run found
    let (groups, _) ← (Expression.groupMeanings { alone with summing := true } results 0 groups).run []
    results.forM fun result => discard result.meaning.single
    filter.forM (Meaning.checkUngrouped depth)
    if !summing && origin.isSome then sorts.forM fun sort => sort.1.checkUngrouped depth
    let sorts := if origin.isNone && !summing then [] else sorts
    return ⟨level, results, rowset, filter, groups, having, found, sorts, origin, distinct, depth⟩

/-- The parts of a chain, each with how it is put to what stands before it: so many, after so many that are passed
over. The last one is looked at first. -/
def Addition.sketches (around : Around) (skipped count : Nat) : List Addition → Except Fault (List (SetOperation × Sketch))
  | [] => .ok []
  | ⟨operation, select⟩ :: rest => do
    match skipped, count with
    | 0, 0 => return []
    | skipped + 1, count => Addition.sketches around skipped count rest
    | 0, count + 1 =>
      let others ← Addition.sketches around 0 count rest
      return (operation, ← select.sketch around fun _ _ => return []) :: others

/-- The columns of a chain's result that it is sorted by: by their place or label, or as a part of the chain names
them. -/
def Sorting.places (arounds : List (Around × Sketch)) (senses : List Sense) (index : Nat) :
    List Sorting → Except Fault (List (Nat × Direction))
  | [] => .ok []
  | ⟨expression, order, nullsLast⟩ :: rest => do
    let found := arounds.findSome? fun (around, sketch) =>
      match ResultMeaning.place "ORDER" true sketch.results index expression,
        (expression.meaning around).run [] with
      | .ok (some place), _ => some (.ok place)
      | .error fault, _ => some (.error fault)
      | _, .ok (meaning, _) =>
        (sketch.results.findIdx? fun result => result.meaning.term.isSame meaning.term).map Except.ok
      | _, _ => none
    let place ← match found with
      | some place => place
      | none =>
        .error (ResultMeaning.ordinal (index + 1) ++ " ORDER BY term does not match any column in the result set" : String)
    let own ← (ResultMeaning.collationOf? expression).mapM collation
    let direction : Direction :=
      ⟨(own <|> (senses[place]?).bind Sense.collation).getD .binary, order, nullsLast⟩
    return (place, direction) :: (← Sorting.places arounds senses (index + 1) rest)

/-- Queries with names, each as it is known in a round: whatever it reads is known from the round before. -/
def CommonTable.round (around : Around) (known : List Common) : List CommonTable → List Common
  | [] => []
  | ⟨name, columns, query⟩ :: rest =>
    let inner := { around with common := known ++ around.common }
    let found :=
      if CommonTable.steps name query = 0 then do
        let prepared ← query.prepare inner.inward
        (prepared.common around.scope.length).renamed name columns
      else query.repeated inner.inward name columns
    { name, found } :: CommonTable.round around known rest

/-- A query with a name whose last parts read itself: they are run for each row that it has. -/
def Compound.repeated (around : Around) (name : String) (columns : Option (List String)) :
    Compound → Except Fault CommonRows
  | ⟨_, first, additions, sorts, limit, offset⟩ => do
    let count := Addition.stepCount name additions
    let depth := around.scope.length
    let others ← Addition.sketches around 0 (additions.length - count) additions
    let start ← first.sketch around fun _ _ => return []
    let chain ← Prepared.chain (start.finish none none) (others.map fun entry => (entry.1, entry.2.finish none none))
    let rows ← (chain.common depth).renamed name columns
    if additions.any fun addition => 1 < addition.readings name then
      Fault.refuse ("multiple references to recursive table: " ++ name)
    let own : Common := { name, found := .ok { rows with rowset := .here rows.names.length depth }, isOpen := true }
    let inner := { around with scope := around.scope ++ [{ header := [] }], common := own :: around.common }
    let found ← Addition.sketches inner (additions.length - count) count additions
    found.forM fun entry => entry.2.checkStep
    let whole ← Prepared.chain chain (found.map fun entry => (entry.1, entry.2.finish none none))
    let parts := start :: (others ++ found).map Prod.snd
    let keys ← Sorting.places (parts.map fun sketch => (around.inside sketch, sketch)) whole.senses 0 sorts
    let (limit, _) ← (Expression.meaning? around.nowhere limit).run []
    let (offset, _) ← (Expression.meaning? around.nowhere offset).run []
    let limit ← limit.mapM fun meaning => return (← meaning.single).term
    let offset ← offset.mapM fun meaning => return (← meaning.single).term
    let unique := found.any fun entry => entry.1 = .union
    let plans := found.map fun entry => (entry.2.finish none none).plan
    return { rows with
      rowset := .plan (rows.senses.map Sense.affinity) (.within depth (.repeated unique (rows.senses.map Sense.orBinary) chain.plan
        plans keys limit offset)) }

/-- What a query means among the queries around it. -/
def Compound.prepare (around : Around) : Compound → Except Fault Prepared
  | ⟨common, first, additions, sorts, limit, offset⟩ => do
    let around ← around.withCommon (common.map CommonTable.name) fun known => CommonTable.round around known common
    let (limit, _) ← (Expression.meaning? around.nowhere limit).run []
    let (offset, _) ← (Expression.meaning? around.nowhere offset).run []
    let limit ← limit.mapM fun meaning => return (← meaning.single).term
    let offset ← offset.mapM fun meaning => return (← meaning.single).term
    if additions.isEmpty then
      let sketch ← first.sketch around fun inner results => Sorting.resultMeanings inner results 0 sorts
      return sketch.finish limit offset
    else
      let others ← Addition.sketches around 0 additions.length additions
      let start ← first.sketch around fun _ _ => return []
      let chain ← Prepared.chain (start.finish none none) (others.map fun entry => (entry.1, entry.2.finish none none))
      let parts := start :: others.map Prod.snd
      let keys ← Sorting.places (parts.map fun sketch => (around.inside sketch, sketch)) chain.senses 0 sorts
      return { chain with plan := .arranged keys limit offset chain.plan }
end

end RecordMapper
