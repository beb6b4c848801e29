import RecordMapper.Relational.Json.Rows
import RecordMapper.Relational.Scalar
import RecordMapper.Relational.Window

/-! Expressions and queries once it is known what their names mean, and their values. Names have become places: the
query at a level, counted from the outermost, and the column of its rows. -/

namespace RecordMapper

mutual
inductive Term where
  | column (level index : Nat)
  | literal (datum : Datum)
  | negate (inside : Term)
  | complement (inside : Term)
  | not (inside : Term)
  | and (left right : Term)
  | or (left right : Term)
  | versus (likeness : Likeness) (relation : Relation) (left right : Term)
  | same (likeness : Likeness) (left right : Term)
  | null (inside : Term)
  | between (low high : Likeness) (inside lowest highest : Term)
  | among (likeness : Likeness) (inside : Term) (others : List Term)
  /-- Whether data are a row of a query's result. -/
  | amongRows (likenesses : List Likeness) (insides : List Term) (plan : Plan)
  | operate (operator : Operator) (left right : Term)
  | branch (test yes no : Term)
  | apply (function : Scalar) (collation : Collation) (arguments : List Term)
  /-- A summary of the rows of the group at a level. -/
  | summary (level : Nat) (aggregate : Aggregate)
  | cast (affinity : Affinity) (inside : Term)
  /-- A column of the first row of a query's result. -/
  | first (plan : Plan) (index : Nat)
  | exists (plan : Plan)

/-- What is summarized of rows, of those that pass a test and in an order. -/
structure Aggregate where
  summary : Summary
  distinct : Bool
  collation : Collation
  arguments : List Term
  test : Option Term
  sorts : List Term
  directions : List Direction

inductive EdgeTerm where
  | start
  | before (count : Term)
  | here
  | after (count : Term)
  | finish

/-- A function of windows of rows. -/
structure Windowed where
  function : WindowFunction
  arguments : List Term
  test : Option Term
  partitions : List Term
  partitionDirections : List Direction
  sorts : List Term
  directions : List Direction
  unit : FrameUnit
  first : EdgeTerm
  last : EdgeTerm
  exclusion : Exclusion

/-- Where rows come from. -/
inductive Rowset where
  | rows (width : Nat) (frames : List Frame)
  /-- The row at hand of a level. -/
  | here (width level : Nat)
  /-- The result of a query with columns of such affinities. -/
  | plan (columns : List Affinity) (plan : Plan)
  | call (function : TableFunction) (arguments : List Term)
  | join (keepsLeft keepsRight : Bool) (left right : Rowset) (test : Term)

/-- How the rows of a result are made from those that pass the filter. -/
structure Projection where
  columns : List Term
  collations : List Collation
  distinct : Bool
  /-- Without keys a query either has one group or, if this is nothing, each row stands for itself. -/
  groups : Option (List Term)
  groupDirections : List Direction
  /-- The summary that picks the row that stands for a group: what comes first, and of what. -/
  pick : Option (Ordering × Collation)
  picked : List Term
  having : Option Term
  windows : List Windowed
  sorts : List Term
  directions : List Direction

inductive Plan where
  /-- The rows of a source that pass a filter, what is made of them, and how that is cut. -/
  | one (rowset : Rowset) (filter : Option Term) (projection : Projection) (limit offset : Option Term)
  /-- Two results put together. -/
  | both (operation : SetOperation) (collations : List Collation) (left right : Plan)
  /-- A result sorted by columns and cut. -/
  | arranged (keys : List (Nat × Direction)) (limit offset : Option Term) (plan : Plan)
  /-- A result and what follows from each of its rows, one level further in, until nothing new follows. -/
  | repeated (unique : Bool) (collations : List Collation) (start : Plan) (steps : List Plan)
      (keys : List (Nat × Direction)) (limit offset : Option Term)
  /-- A query that knows the outermost levels alone. -/
  | within (depth : Nat) (plan : Plan)
end

/-- The row at hand of a level, and the rows of the group that it stands for. -/
structure Seat where
  row : Frame
  members : List Frame := []
  deriving Inhabited

def Rowset.width : Rowset → Nat
  | .rows width _ | .here width _ => width
  | .plan columns _ => columns.length
  | .call .. => TableFunction.columns.length
  | .join _ _ left right _ => left.width + right.width

/-- Whether each row of the result is made of one row alone, in the order of those. -/
def Projection.isDirect (projection : Projection) : Bool :=
  projection.groups.isNone && !projection.distinct && projection.windows.isEmpty && projection.sorts.isEmpty

/-- A datum of the class that a type asks for. -/
def Affinity.cast (affinity : Affinity) (datum : Datum) : Datum :=
  match datum, affinity with
  | .null, _ => .null
  | _, .none | _, .blob => .blob datum.octets
  | _, .text => .ofOctets datum.octets
  | _, .integer => .int datum.toInt
  | _, .real => .real datum.toDouble
  | .int n, .numeric => .int n
  | .real x, .numeric => .real x
  | _, .numeric =>
    match datum.toNumber with
    | .real x => Datum.integerIfExact x
    | number => number

/-- A datum of a result as another query reads it. In a column of floats an integer is one. -/
def Affinity.reading (affinity : Affinity) (datum : Datum) : Datum :=
  match affinity, datum with
  | .real, .int n => .real (Double.ofInt n.toInt)
  | _, datum => datum.plain

/-- The part of rows that a limit and an offset leave: how many are passed over, and how many are kept at most. -/
structure Cut where
  skipped : Nat := 0
  kept : Option Nat := none

namespace Cut

/-- A negative limit keeps all. -/
def ofData (limit offset : Option Datum) : Except Fault Cut :=
  match limit.map Datum.numberIfWhole, offset.map Datum.numberIfWhole with
  | none, _ => .ok {}
  | some (.int count), none => .ok ⟨0, if count < 0 then none else some count.toInt.toNat⟩
  | some (.int count), some (.int start) => .ok ⟨start.toInt.toNat, if count < 0 then none else some count.toInt.toNat⟩
  | some count, start =>
    match whole count, (start.map whole).getD (some 0) with
    | some count, some start => .ok ⟨start.toNat, if count < 0 then none else some count.toNat⟩
    | _, _ => .error .mismatch
where
  /-- An integer, written with a point or not. -/
  whole : Datum → Option Int
    | .int n => some n.toInt
    | .real x => x.toInt?
    | _ => none

def apply (cut : Cut) (rows : List α) : List α :=
  let rest := rows.drop cut.skipped
  cut.kept.elim rest fun count => rest.take count

/-- How many rows have to be known if no more than so many are asked for. -/
def needed (cut : Cut) (most : Option Nat) : Option Nat :=
  match cut.kept, most with
  | none, none => none
  | some count, none => some (cut.skipped + count)
  | none, some most => some (cut.skipped + most)
  | some count, some most => some (cut.skipped + min count most)

end Cut

/-- The first rows that something is made of, as many as are asked for; nothing is made of those after them. -/
def gather (make : Frame → Except Fault (Option Frame)) : Option Nat → List Frame → Except Fault (List Frame)
  | some 0, _ | _, [] => .ok []
  | most, frame :: rest => do
    match ← make frame with
    | some made => return made :: (← gather make (most.map (· - 1)) rest)
    | none => gather make most rest

/-- Sorts rows by some of their columns. -/
def Frame.arranged (keys : List (Nat × Direction)) (frames : List Frame) : List Frame :=
  if keys.isEmpty then frames
  else
    (Frame.sorted (keys.map Prod.snd) (frames.map fun frame => (keys.map fun key => frame.getD key.1 .null, frame))).map
      Prod.snd

/-- Rows without those that have been seen, which they then count among themselves. -/
def Frame.unseen (collations : List Collation) (seen : List Frame) : List Frame → List Frame
  | [] => []
  | frame :: rest =>
    if Frame.has collations seen frame then Frame.unseen collations seen rest
    else frame :: Frame.unseen collations (frame :: seen) rest

/-- The greatest number of rows that follow from each other. -/
def greatestRun : Nat := 1000000

/-- Takes rows from the front of a queue and puts what follows from them at its end, or where it belongs in the order
of its keys. -/
def follow (next : Frame → Except Fault (List Frame)) (unique : Bool) (collations : List Collation)
    (keys : List (Nat × Direction)) : Nat → Option Nat → List Frame → List Frame → Except Fault (List Frame)
  | 0, _, _, _ | _, some 0, _, _ | _, _, _, [] => .ok []
  | fuel + 1, most, seen, frame :: queue => do
    let new ← if most = some 1 then pure [] else next frame
    let new := if unique then Frame.unseen collations seen new else new
    let seen := if unique then new ++ seen else []
    return frame :: (← follow next unique collations keys fuel (most.map (· - 1)) seen
      (Frame.arranged keys (queue ++ new)))

/-- What the rows of a result are put together to. -/
def SetOperation.apply (operation : SetOperation) (collations : List Collation) (left right : List Frame) :
    List Frame :=
  match operation with
  | .unionAll => left ++ right
  | .union => Frame.union collations left right
  | .intersect => (Frame.union collations [] left).filter (Frame.has collations right)
  | .except => (Frame.union collations [] left).filter fun frame => !Frame.has collations right frame

/-- Whether data are one of the rows, each column compared in its own way. What is looked for is not converted if
NULL is part of it. -/
def Frame.among (likenesses : List Likeness) (data : List Datum) (rows : List Frame) : Truth :=
  let converts := !data.any Datum.isNull
  .any (rows.map fun row =>
    .all ((likenesses.zip (data.zip row)).map fun (likeness, datum, other) =>
      ({ likeness with affinity := .none }).versus .eq
        (if converts then likeness.affinity.store datum else datum) (likeness.affinity.store other)))

/-- What a term is evaluated for: its datum, or whether it holds, where NULL counts as one or the other. -/
inductive Purpose where
  | datum
  | test (null : Bool)
  deriving DecidableEq

namespace Purpose

/-- The purpose of what is negated. -/
def negated : Purpose → Purpose
  | .datum => .datum
  | .test null => .test !null

/-- Whether a test is decided as soon as its first part has such an outcome. A datum needs all parts. -/
def isDecided (outcome : Bool) (first : Truth) : Purpose → Bool
  | .datum => false
  | .test null =>
    match first with
    | .yes => outcome
    | .no => !outcome
    | .unknown => null = outcome

end Purpose

mutual
/-- The datum of a term for the rows at hand from the outermost level on. -/
def Term.value (seats : List Seat) (purpose : Purpose) : Term → Except Fault Datum
  | .column level index => .ok ((seats.getD level default).row.getD index .null)
  | .literal datum => .ok datum
  | .negate inside => return (← inside.value seats .datum).plain.negated
  | .complement inside => return (← inside.value seats .datum).plain.complement
  | .not inside => return .ofTruth (← inside.value seats purpose.negated).toTruth.not
  | .and left right => do
    let first := (← left.value seats purpose).toTruth
    if purpose.isDecided false first then return .ofTruth first
    return .ofTruth (first.and (← right.value seats purpose).toTruth)
  | .or left right => do
    let first := (← left.value seats purpose).toTruth
    if purpose.isDecided true first then return .ofTruth first
    return .ofTruth (first.or (← right.value seats purpose).toTruth)
  | .versus likeness relation left right => do
    return .ofTruth (likeness.versus relation (← left.value seats .datum).plain (← right.value seats .datum).plain)
  | .same likeness left right => do
    return .ofTruth (.ofBool (likeness.same (← left.value seats .datum).plain (← right.value seats .datum).plain))
  | .null inside => return .ofTruth (.ofBool (← inside.value seats .datum).isNull)
  | .between low high inside lowest highest => do
    let datum := (← inside.value seats .datum).plain
    let above := low.versus .gte datum (← lowest.value seats .datum).plain
    if purpose.isDecided false above then return .ofTruth above
    return .ofTruth (above.and (high.versus .lte datum (← highest.value seats .datum).plain))
  | .among likeness inside others => do
    return .ofTruth (← Term.isOneOf seats likeness (← inside.value seats .datum).plain others)
  | .amongRows likenesses insides plan => do
    let others ← plan.run seats none
    return .ofTruth (Frame.among likenesses ((← Term.values seats insides).map Datum.plain) others)
  | .operate operator left right => do
    return Datum.combine operator (← left.value seats .datum).plain (← right.value seats .datum).plain
  | .branch test yes no => do
    if (← test.value seats (.test false)).toTruth.isTrue then yes.value seats .datum else no.value seats .datum
  | .apply .firstGiven _ arguments => Term.firstGiven seats arguments
  | .apply function collation arguments => do function.apply collation (← Term.values seats arguments)
  | .summary level aggregate => aggregate.value (seats.take level) (seats.getD level default).members
  | .cast affinity inside => return affinity.cast (← inside.value seats .datum).plain
  | .first plan index => return ((← plan.run seats (some 1)).head?.map fun frame => frame.getD index .null).getD .null
  | .exists plan => return .ofTruth (.ofBool !(← plan.run seats (some 1)).isEmpty)

def Term.values (seats : List Seat) : List Term → Except Fault (List Datum)
  | [] => .ok []
  | term :: rest => return (← term.value seats .datum) :: (← Term.values seats rest)

/-- The first datum that is not NULL; those after it are not looked at. -/
def Term.firstGiven (seats : List Seat) : List Term → Except Fault Datum
  | [] => .ok .null
  | term :: rest => do
    let datum ← term.value seats .datum
    if datum.isNull then Term.firstGiven seats rest else return datum

/-- Whether a datum is one of others; those after the first that it is are not looked at. -/
def Term.isOneOf (seats : List Seat) (likeness : Likeness) (datum : Datum) : List Term → Except Fault Truth
  | [] => .ok .no
  | term :: rest => do
    let truth := likeness.versus .eq datum (← term.value seats .datum).plain
    if truth = .yes then return .yes else return truth.or (← Term.isOneOf seats likeness datum rest)

/-- The datum of a term that may be missing. -/
def Term.given (seats : List Seat) : Option Term → Except Fault (Option Datum)
  | none => .ok none
  | some term => return some (← term.value seats .datum)

/-- Whether a test holds that may be missing. -/
def Term.holds (seats : List Seat) : Option Term → Except Fault Bool
  | none => .ok true
  | some term => return (← term.value seats (.test false)).toTruth.isTrue

/-- The keys of a group; a row that stands for itself has none. -/
def Term.keys (seats : List Seat) : Option (List Term) → Except Fault (List Datum)
  | none => .ok []
  | some terms => return (← Term.values seats terms).map Datum.plain

def Aggregate.value (outer : List Seat) (members : List Frame) : Aggregate → Except Fault Datum
  | ⟨summary, distinct, collation, arguments, test, sorts, directions⟩ => do
    let kept ← members.filterM fun member => Term.holds (outer ++ [{ row := member }]) test
    let keyed ← kept.mapM fun member => do
      let seats := outer ++ [{ row := member }]
      return ((← Term.values seats sorts).map Datum.plain, ← Term.values seats arguments)
    let given := (if sorts.isEmpty then keyed else Frame.sorted directions keyed).map Prod.snd
    summary.apply collation (if distinct then Summary.distinct collation given else given)

def EdgeTerm.edge (seats : List Seat) : EdgeTerm → Except Fault Edge
  | .start => .ok .start
  | .before count => return .before (← count.value seats .datum).plain
  | .here => .ok .here
  | .after count => return .after (← count.value seats .datum).plain
  | .finish => .ok .finish

/-- Adds what a function of windows gives to rows, which are put into the order of their windows. -/
def Windowed.extend (outer : List Seat) (rows : List (Seat × List Datum)) :
    Windowed → Except Fault (List (Seat × List Datum))
  | ⟨function, arguments, test, partitions, partitionDirections, sorts, directions, unit, first, last, exclusion⟩ => do
    let keyed ← rows.mapM fun row => do
      let seats := outer ++ [row.1]
      let parts := (← Term.values seats partitions).map Datum.plain
      let keys := (← Term.values seats sorts).map Datum.plain
      let given ← Term.values seats arguments
      return (parts, ((⟨keys, given, ← Term.holds seats test⟩ : WindowRow), row))
    let sorted := Frame.sorted (partitionDirections ++ directions)
      (keyed.map fun (parts, entry) => (parts ++ entry.1.keys, parts, entry))
    let found ← (Frame.grouped partitionDirections (sorted.map Prod.snd)).mapM fun entries => do
      let seats := outer ++ ((entries.head?.map fun entry => entry.2.1).toList)
      let partition := Partition.ofRows directions unit (← first.edge seats) (← last.edge seats) exclusion
        (entries.map Prod.fst)
      let values ← partition.values function
      return (entries.zip values).map fun ((_, seat, others), value) => (seat, value :: others)
    return found.flatten

/-- Adds what functions of windows give to rows. The first one is the last to put them into its order. -/
def Windowed.extendAll (outer : List Seat) (rows : List (Seat × List Datum)) :
    List Windowed → Except Fault (List (Seat × List Datum))
  | [] => .ok rows
  | window :: rest => do window.extend outer (← Windowed.extendAll outer rows rest)

/-- The rows of a source for the rows at hand around it, and no more of them than are asked for if that is easy. -/
def Rowset.frames (seats : List Seat) (most : Option Nat) : Rowset → Except Fault (List Frame)
  | .rows _ frames => .ok frames
  | .here _ level => .ok [(seats.getD level default).row]
  | .plan columns plan =>
    return (← plan.run seats most).map fun frame => (columns.zip frame).map fun (affinity, datum) => affinity.reading datum
  | .call function arguments => do function.rows (← Term.values seats arguments)
  | .join keepsLeft _ left (.call function arguments) test => do
    let leftRows ← left.frames seats none
    let pairs ← leftRows.mapM fun row => do
      let rightRows ← function.rows (← Term.values (seats ++ [{ row }]) arguments)
      let others ← rightRows.filterM fun other =>
        return (← test.value (seats ++ [{ row := row ++ other }]) (.test false)).toTruth.isTrue
      return (row, others)
    return Frame.joined keepsLeft false left.width TableFunction.columns.length pairs []
  | .join keepsLeft keepsRight left right test => do
    let leftRows ← left.frames seats none
    let rightRows ← right.frames seats none
    let pairs ← leftRows.mapM fun row => do
      let others ← rightRows.filterM fun other =>
        return (← test.value (seats ++ [{ row := row ++ other }]) (.test false)).toTruth.isTrue
      return (row, others)
    let alone ← rightRows.filterM fun other =>
      leftRows.allM fun row =>
        return keepsRight && !(← test.value (seats ++ [{ row := row ++ other }]) (.test false)).toTruth.isTrue
    return Frame.joined keepsLeft keepsRight left.width right.width pairs alone

/-- The result that rows of a source make, those that pass the filter. -/
def Projection.rows (outer : List Seat) (width : Nat) (passes : Frame → Except Fault Bool) (cut : Cut)
    (most : Option Nat) (frames : List Frame) : Projection → Except Fault (List Frame)
  | ⟨columns, collations, distinct, groups, groupDirections, pick, picked, having, windows, sorts, directions⟩ => do
    if groups.isNone && !distinct && windows.isEmpty && sorts.isEmpty then
      let make (frame : Frame) : Except Fault (Option Frame) := do
        if ← passes frame then return some (← Term.values (outer ++ [{ row := frame }]) columns) else return none
      return cut.apply (← gather make (cut.needed most) frames)
    let frames ← frames.filterM passes
    let keyed ← frames.mapM fun frame => return ((← Term.keys (outer ++ [{ row := frame }]) groups), frame)
    let members := match groups with
      | none => frames.map fun frame => [frame]
      | some [] => [frames]
      | some _ => Frame.grouped groupDirections keyed
    let represented ← members.mapM fun members => do
      let data ← members.mapM fun member => return ((← Term.values (outer ++ [{ row := member }]) picked), member)
      return (⟨Frame.picked pick width data, members⟩ : Seat)
    let kept ← represented.filterM fun seat => Term.holds (outer ++ [seat]) having
    let extended ← Windowed.extendAll outer (kept.map fun seat => (seat, [])) windows
    let results ← extended.mapM fun (seat, found) => do
      let seats := outer ++ [{ seat with row := seat.row ++ found }]
      let data ← Term.values seats columns
      return ((← Term.values seats sorts).map Datum.plain, data)
    if !distinct && windows.isEmpty && sorts.isEmpty then return cut.apply (results.map Prod.snd)
    let results := results.map fun (keys, data) => (keys, data.map Datum.plain)
    let results := if distinct then Frame.distinct collations results else results
    return cut.apply ((Frame.sorted directions results).map Prod.snd)

/-- The rows of a query's result for the rows at hand around it, and no more of them than are asked for if that is
easy. -/
def Plan.run (seats : List Seat) (most : Option Nat) : Plan → Except Fault (List Frame)
  | .one rowset filter projection limit offset => do
    let cut ← Cut.ofData (← Term.given [] limit) (← Term.given [] offset)
    let frames ← rowset.frames seats (if filter.isNone && projection.isDirect then cut.needed most else none)
    let passes (frame : Frame) : Except Fault Bool := Term.holds (seats ++ [{ row := frame }]) filter
    projection.rows seats rowset.width passes cut most frames
  | .both operation collations left right => do
    let before ← left.run seats none
    let after ← right.run seats none
    return operation.apply collations (before.map fun frame => frame.map Datum.plain)
      (after.map fun frame => frame.map Datum.plain)
  | .arranged keys limit offset plan => do
    let cut ← Cut.ofData (← Term.given [] limit) (← Term.given [] offset)
    return cut.apply (Frame.arranged keys (← plan.run seats (if keys.isEmpty then cut.needed most else none)))
  | .repeated unique collations start steps keys limit offset => do
    let cut ← Cut.ofData (← Term.given [] limit) (← Term.given [] offset)
    let first := (← start.run seats none).map fun frame => frame.map Datum.plain
    let first := if unique then Frame.unseen collations [] first else first
    let next (frame : Frame) : Except Fault (List Frame) := Plan.runAll (seats ++ [{ row := frame }]) steps
    return cut.apply (← follow next unique collations keys greatestRun (cut.needed most) (if unique then first else [])
      (Frame.arranged keys first))
  | .within depth plan => plan.run (seats.take depth) most

/-- The rows of several results. -/
def Plan.runAll (seats : List Seat) : List Plan → Except Fault (List Frame)
  | [] => .ok []
  | plan :: rest => do
    let first := (← plan.run seats none).map fun frame => frame.map Datum.plain
    return first ++ (← Plan.runAll seats rest)
end

end RecordMapper
