import RecordMapper.Relational.Expression
import RecordMapper.Relational.Frame
import RecordMapper.Relational.Joining
import RecordMapper.Relational.Summary

/-! Functions of windows of rows. The rows of a partition are in order, and to each of them belongs a frame of rows
around it. -/

namespace RecordMapper

inductive WindowFunction where
  | rowNumber
  | rank
  | denseRank
  | percentRank
  | cumulative
  | tile
  | earlier
  | later
  | first
  | last
  | nth
  | summary (summary : Summary) (collation : Collation)
  deriving DecidableEq

/-- Where a frame starts or ends, once it is known how far away. -/
inductive Edge where
  | start
  | before (count : Datum)
  | here
  | after (count : Datum)
  | finish

namespace WindowFunction

/-- Names of functions with the least and the greatest number of their arguments. -/
def table : List (String × Nat × Nat × WindowFunction) :=
  [("CUME_DIST", 0, 0, .cumulative), ("DENSE_RANK", 0, 0, .denseRank), ("FIRST_VALUE", 1, 1, .first),
   ("LAG", 1, 3, .earlier), ("LAST_VALUE", 1, 1, .last), ("LEAD", 1, 3, .later), ("NTH_VALUE", 2, 2, .nth),
   ("NTILE", 1, 1, .tile), ("PERCENT_RANK", 0, 0, .percentRank), ("RANK", 0, 0, .rank),
   ("ROW_NUMBER", 0, 0, .rowNumber)]

/-- Whether a function of windows alone has the name, which is in capitals. -/
def isNamed (name : String) : Bool := table.any fun entry => entry.1 = name

/-- The function of a name in capitals that takes so many arguments. -/
def find? (name : String) (count : Nat) : Option WindowFunction :=
  (table.find? fun (given, fewest, most, _) => given = name && fewest ≤ count && count ≤ most).map
    fun (_, _, _, function) => function

end WindowFunction

/-- A row of a partition. -/
structure WindowRow where
  keys : Frame
  arguments : List Datum
  /-- Whether it passes the test of rows that are summarized. -/
  passes : Bool := true

/-- The rows of a partition in order, and how frames are laid around them. -/
structure Partition where
  rows : Array WindowRow
  directions : List Direction
  unit : FrameUnit
  first : Edge
  last : Edge
  exclusion : Exclusion
  /-- Where the rows that each row cannot be told from by its keys start and end, for all runs of such rows. -/
  runs : Array (Nat × Nat)
  /-- The run that each row belongs to. -/
  runOf : Array Nat

namespace Partition

/-- Starts and ends of parts of so many rows each. -/
def spread (start : Nat) : List Nat → List (Nat × Nat)
  | [] => []
  | size :: rest => (start, start + size) :: spread (start + size) rest

def ofRows (directions : List Direction) (unit : FrameUnit) (first last : Edge) (exclusion : Exclusion)
    (rows : List WindowRow) : Partition :=
  let sizes := (rows.splitBy fun a b => Frame.sortOrder directions a.keys b.keys = .eq).map List.length
  { rows := rows.toArray, directions, unit, first, last, exclusion, runs := (spread 0 sizes).toArray
    runOf := (sizes.zipIdx.flatMap fun (size, index) => List.replicate size index).toArray }

def size (partition : Partition) : Nat := partition.rows.size

/-- The run at a place, counted with those before the first one. -/
def run (partition : Partition) (place : Int) : Nat × Nat :=
  if place < 0 then (0, 0) else partition.runs.getD place.toNat (partition.size, partition.size)

/-- The run that a row belongs to. -/
def peers (partition : Partition) (index : Nat) : Nat × Nat := partition.run (partition.runOf.getD index 0 : Nat)

/-- A key moved by a number; what is no number stays. -/
def moved (up : Bool) (key count : Datum) : Datum :=
  match key with
  | .int _ | .real _ => Datum.combine (if up then .add else .subtract) key count
  | other => other

/-- The key that a frame reaches to, if it is moved toward the start or the end. -/
def reach (partition : Partition) (toEnd : Bool) (index : Nat) (count : Datum) : Datum :=
  let key := ((partition.rows[index]?.map WindowRow.keys).getD []).headD .null
  moved (toEnd == ((partition.directions.headD {}).order == .asc)) key count

/-- How many rows come before a key, or up to it. -/
def upTo (partition : Partition) (included : Bool) (key : Datum) : Nat :=
  (partition.rows.toList.takeWhile fun row =>
    match (partition.directions.headD {}).compare (row.keys.headD .null) key with
    | .lt => true
    | .eq => included
    | .gt => false).length

/-- The number of rows before the frame of a row. -/
def lower (partition : Partition) (index : Nat) : Nat :=
  let clamp (n : Int) : Nat := min n.toNat partition.size
  match partition.first, partition.unit with
  | .start, _ => 0
  | .finish, _ => partition.size
  | .here, .rows => index
  | .here, _ => (partition.peers index).1
  | .before count, .rows => clamp (index - count.toInt.toInt)
  | .after count, .rows => clamp (index + count.toInt.toInt)
  | .before count, .groups => (partition.run ((partition.runOf.getD index 0 : Nat) - count.toInt.toInt)).1
  | .after count, .groups => (partition.run ((partition.runOf.getD index 0 : Nat) + count.toInt.toInt)).1
  | .before count, .range => partition.upTo false (partition.reach false index count)
  | .after count, .range => partition.upTo false (partition.reach true index count)

/-- The number of rows up to the end of the frame of a row. -/
def upper (partition : Partition) (index : Nat) : Nat :=
  let clamp (n : Int) : Nat := min n.toNat partition.size
  match partition.last, partition.unit with
  | .start, _ => 0
  | .finish, _ => partition.size
  | .here, .rows => index + 1
  | .here, _ => (partition.peers index).2
  | .before count, .rows => clamp (index - count.toInt.toInt + 1)
  | .after count, .rows => clamp (index + count.toInt.toInt + 1)
  | .before count, .groups => (partition.run ((partition.runOf.getD index 0 : Nat) - count.toInt.toInt)).2
  | .after count, .groups => (partition.run ((partition.runOf.getD index 0 : Nat) + count.toInt.toInt)).2
  | .before count, .range => partition.upTo true (partition.reach false index count)
  | .after count, .range => partition.upTo true (partition.reach true index count)

/-- Whether a row that is in the frame of another is left out after all. -/
def isExcluded (partition : Partition) (index other : Nat) : Bool :=
  let isPeer := partition.runOf.getD index 0 = partition.runOf.getD other 0
  match partition.exclusion with
  | .unsaid | .nothing => false
  | .current => index = other
  | .group => isPeer
  | .ties => isPeer && index ≠ other

/-- The rows of the frame of a row. -/
def frame (partition : Partition) (index : Nat) : List WindowRow :=
  let start := partition.lower index
  let places := (List.range (partition.upper index - start)).map (start + ·)
  (places.filter fun place => !partition.isExcluded index place).filterMap fun place => partition.rows[place]?

/-- What is summarized of the rows at places from one up to another. -/
def given (partition : Partition) (start finish : Nat) : List (List Datum) :=
  ((partition.rows.extract start finish).toList.filter WindowRow.passes).filterMap fun row =>
    if (row.arguments.headD .null).isNull then none else some row.arguments

/-- What is gathered of rows, from which the first of them can be taken away again. -/
structure Gathering (σ : Type) where
  start : σ
  add : σ → List Datum → σ
  remove : σ → List Datum → σ

/-- What has been gathered of a frame that moves. -/
structure Moving (σ : Type) where
  state : σ
  /-- The rows before the frame, and those up to its end. -/
  start : Nat := 0
  finish : Nat := 0

section Gathered

variable {σ : Type} (partition : Partition) (gathering : Gathering σ)

/-- Leaves rows up to a place, as far as they have been reached. -/
def Moving.leave (place : Nat) (moving : Moving σ) : Moving σ :=
  let place := max moving.start (min place moving.finish)
  { moving with state := (partition.given moving.start place).foldl gathering.remove moving.state, start := place }

def Moving.enter (place : Nat) (moving : Moving σ) : Moving σ :=
  let place := max moving.finish place
  { moving with state := (partition.given moving.finish place).foldl gathering.add moving.state, finish := place }

/-- The rows of the first runs, or of the first rows, whatever frames are counted in. -/
def upToUnit (count : Nat) : Nat :=
  match partition.unit, count with
  | .groups, count + 1 => (partition.run count).2
  | _, count => min count partition.size

/-- A frame on its way to the first row, if it starts and ends at rows that follow: with each one that it enters it
leaves the one that is so far behind. -/
def Moving.onWay : Moving σ :=
  let moving : Moving σ := { state := gathering.start }
  match partition.first, partition.last, partition.unit with
  | _, _, .range => moving
  | .after near, .after far, _ =>
    let near := near.toInt.toInt.toNat
    let far := far.toInt.toInt.toNat
    (List.range (min far partition.size)).foldl (fun moving index =>
      Moving.leave partition gathering (partition.upToUnit (index + 1 - (far - near)))
        (Moving.enter partition gathering (partition.upToUnit (index + 1)) moving)) moving
  | _, _, _ => moving

/-- Goes on to the frame of a row. Rows are left before others are entered, but for some frames that do not reach to
the row. -/
def Moving.goTo (moving : Moving σ) (index : Nat) : Moving σ :=
  let leave := Moving.leave partition gathering (partition.lower index)
  let enter := Moving.enter partition gathering (partition.upper index)
  match partition.first, partition.last, partition.unit with
  | .before _, .before _, .range | .after _, _, .range | .after _, .finish, _ => leave (enter moving)
  | _, _, _ => leave (enter (leave moving))

/-- What is gathered of the frames of all rows. -/
def gathered : List σ :=
  ((List.range partition.size).foldl (fun (moving, found) index =>
    let moving := Moving.goTo partition gathering moving index
    (moving, moving.state :: found)) (Moving.onWay partition gathering, ([] : List σ))).2.reverse

end Gathered

/-- The summaries of the frames of all rows. -/
def summaries (partition : Partition) (summary : Summary) (collation : Collation) : Except Fault (List Datum) :=
  match partition.exclusion, summary, summary.ofSum? {} with
  | .unsaid, .joined, _ => .ok ((partition.gathered ⟨{}, Joining.add, Joining.remove⟩).map Joining.datum)
  | .unsaid, _, some _ =>
    let add (sum : Sum) (data : List Datum) : Sum := sum.add (data.headD .null)
    let remove (sum : Sum) (data : List Datum) : Sum := sum.remove (data.headD .null)
    (partition.gathered ⟨{}, add, remove⟩).mapM fun sum => (summary.ofSum? sum).getD (.ok .null)
  | _, _, _ =>
    (List.range partition.size).mapM fun index =>
      summary.apply collation (((partition.frame index).filter WindowRow.passes).map WindowRow.arguments)

/-- The datum of a row so far away, or else what is given for that. -/
def distant (partition : Partition) (index : Nat) (sign : Int) (arguments : List Datum) : Datum :=
  let step := (arguments[1]?).getD (.int 1)
  let place := Datum.combine .add (.int (Int64.ofNat index)) (Datum.combine .multiply (.int (Int64.ofInt sign)) step)
  let found := match place with
    | .int n => if n < 0 then none else partition.rows[n.toInt.toNat]?
    | .real x => (x.toInt?.filter (0 ≤ ·)).bind fun n => partition.rows[n.toNat]?
    | _ => none
  match found with
  | some row => row.arguments.headD .null
  | none => arguments.getD 2 .null

/-- The part that a row belongs to where rows are cut into so many parts of nearly the same size. -/
def tileOf (count index parts : Nat) : Nat :=
  let size := count / parts
  let large := count - parts * size
  if size = 0 then index + 1
  else if index < large * (size + 1) then 1 + index / (size + 1)
  else 1 + large + (index - large * (size + 1)) / size

/-- What is asked for of a row at a place among those of a frame. -/
def atPlace (rows : List WindowRow) (place : Nat) : Datum :=
  ((rows[place]?.map WindowRow.arguments).getD []).headD .null

/-- An integer that a datum stands for. -/
def whole? (datum : Datum) : Option Int :=
  match datum.numberIfWhole with
  | .int n => some n.toInt
  | .real x => x.toInt?
  | _ => none

def ofNat (n : Nat) : Datum := .int (Int64.ofNat n)

def quotient (a b : Nat) : Datum := .real ((Double.ofNat a).dividedBy (.ofNat b))

/-- What a function other than a summary gives for a row. -/
def value (partition : Partition) (function : WindowFunction) (index : Nat) : Except Fault Datum :=
  let arguments := (partition.rows[index]?.map WindowRow.arguments).getD []
  match function with
  | .rowNumber => .ok (ofNat (index + 1))
  | .rank => .ok (ofNat ((partition.peers index).1 + 1))
  | .denseRank => .ok (ofNat (partition.runOf.getD index 0 + 1))
  | .percentRank =>
    .ok (if partition.size ≤ 1 then .real .zero else quotient (partition.peers index).1 (partition.size - 1))
  | .cumulative => .ok (quotient (partition.peers index).2 partition.size)
  | .tile =>
    let parts := ((partition.rows[0]?.map WindowRow.arguments).getD []).headD .null
    if parts.toInt ≤ 0 then .error "argument of ntile must be a positive integer"
    else .ok (ofNat (tileOf partition.size index parts.toInt.toInt.toNat))
  | .earlier => .ok (partition.distant index (-1) arguments)
  | .later => .ok (partition.distant index 1 arguments)
  | .first => .ok (atPlace (partition.frame index) 0)
  | .last => .ok (((partition.frame index).getLast?.bind fun row => row.arguments.head?).getD .null)
  | .nth =>
    match whole? (arguments.getD 1 .null) with
    | some n =>
      if n ≤ 0 then .error "second argument to nth_value must be a positive integer"
      else .ok (atPlace (partition.frame index) (n.toNat - 1))
    | none => .error "second argument to nth_value must be a positive integer"
  | .summary .. => .ok .null

/-- Refuses an edge that is not away by a count, or by a number where rows are told by their keys. -/
def checkEdge (unit : FrameUnit) (name : String) : Edge → Except Fault Unit
  | .before count | .after count =>
    match unit with
    | .range =>
      let fits : Bool := match count.numberIfWhole with
        | .int n => 0 ≤ n
        | .real x => !x.isNegative || x.isZero
        | _ => false
      if fits then .ok () else .error ("frame " ++ name ++ " offset must be a non-negative number")
    | _ =>
      if (whole? count).any (0 ≤ ·) then .ok ()
      else .error ("frame " ++ name ++ " offset must be a non-negative integer")
  | _ => .ok ()

/-- What a function gives for the rows. -/
def values (partition : Partition) (function : WindowFunction) : Except Fault (List Datum) := do
  checkEdge partition.unit "starting" partition.first
  checkEdge partition.unit "ending" partition.last
  match function with
  | .summary summary collation => partition.summaries summary collation
  | _ => (List.range partition.size).mapM (partition.value function)

end Partition

end RecordMapper
