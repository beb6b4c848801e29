import RecordMapper.Relational.Affinity

/-! Rows of data: comparing, sorting and grouping them. -/

namespace RecordMapper

/-- The data of one row of a source. -/
abbrev Frame := List Datum

/-- How a sort key is sorted by. -/
structure Direction where
  collation : Collation := .binary
  order : Order := .asc
  /-- Whether NULL comes last, if that is said. -/
  nullsLast : Option Bool := none
  deriving DecidableEq, Inhabited

namespace Direction

/-- Which of two keys comes first. -/
def compare (direction : Direction) (a b : Datum) : Ordering :=
  let turned := match direction.order with
    | .asc => direction.collation.order a b
    | .desc => (direction.collation.order a b).swap
  match direction.nullsLast, a.isNull, b.isNull with
  | some last, true, false => if last then .gt else .lt
  | some last, false, true => if last then .lt else .gt
  | _, _, _ => turned

end Direction

namespace Frame

/-- Compares data one after the other, each in its own collation. -/
def order : List Collation → Frame → Frame → Ordering
  | collation :: collations, a :: as, b :: bs => (collation.order a b).then (order collations as bs)
  | _, _, _ => .eq

/-- Compares sort keys, each in its own direction. -/
def sortOrder : List Direction → Frame → Frame → Ordering
  | direction :: rest, a :: as, b :: bs => (direction.compare a b).then (sortOrder rest as bs)
  | _, _, _ => .eq

/-- A row of NULL alone. -/
def empty (width : Nat) : Frame := List.replicate width .null

/-- Sorts by keys; what has equal keys stays in its order. -/
def sorted (directions : List Direction) (keyed : List (Frame × α)) : List (Frame × α) :=
  keyed.mergeSort fun a b => sortOrder directions a.1 b.1 ≠ .gt

/-- Rows without those that equal an earlier one. -/
def distinct (collations : List Collation) (frames : List (α × Frame)) : List (α × Frame) :=
  frames.foldl (fun seen entry =>
    if seen.any fun other => order collations other.2 entry.2 = .eq then seen else seen ++ [entry]) []

/-- What has equal keys together, in the order of the keys. -/
def grouped (directions : List Direction) (keyed : List (Frame × α)) : List (List α) :=
  ((sorted directions keyed).splitBy fun a b => sortOrder directions a.1 b.1 = .eq).map fun run => run.map Prod.snd

/-- The row that stands for a group: the first whose datum no other comes before, or else the last; where nothing
is picked by its datum, the first. -/
def picked (pick : Option (Ordering × Collation)) (width : Nat) (members : List (List Datum × Frame)) : Frame :=
  match pick, members.filter fun member => !(member.1.headD .null).isNull with
  | none, _ => (members.head?.map Prod.snd).getD (empty width)
  | some _, [] => (members.getLast?.map Prod.snd).getD (empty width)
  | some (before, collation), first :: rest =>
    (rest.foldl (fun best other =>
      if collation.order (other.1.headD .null) (best.1.headD .null) = before then other else best) first).2

/-- Joins rows that go together. Rows without a partner are kept with NULL beside them if they are asked for. -/
def joined (keepsLeft keepsRight : Bool) (leftWidth rightWidth : Nat) (pairs : List (Frame × List Frame))
    (alone : List Frame) : List Frame :=
  (pairs.flatMap fun (row, others) =>
    if keepsLeft && others.isEmpty then [row ++ empty rightWidth] else others.map (row ++ ·)) ++
    if keepsRight then alone.map (empty leftWidth ++ ·) else []

/-! Results put together: of rows that are equal the last one stays, and the rows come out in order. -/

/-- Adds a row in its place. -/
def insert (collations : List Collation) (new : Frame) : List Frame → List Frame
  | [] => [new]
  | frame :: rest =>
    match order collations new frame with
    | .lt => new :: frame :: rest
    | .eq => new :: rest
    | .gt => frame :: insert collations new rest

def union (collations : List Collation) (left right : List Frame) : List Frame :=
  (left ++ right).foldl (fun frames new => insert collations new frames) []

def has (collations : List Collation) (frames : List Frame) (frame : Frame) : Bool :=
  frames.any fun other => order collations frame other = .eq

end Frame

end RecordMapper
