import RecordMapper.Relational.Scope

/-! The order in which the rows of a table are read. They are in the order of their numbers, but in that of the key
where a filter leaves a range of it, or where nothing but the two is read. -/

namespace RecordMapper

mutual
/-- The columns of a level that a term reads, in queries within it too. -/
def Term.reads (level : Nat) : Term → List Nat
  | .column own index => if own = level then [index] else []
  | .literal _ => []
  | .negate inside | .complement inside | .not inside | .null inside | .cast _ inside => inside.reads level
  | .and left right | .or left right | .versus _ _ left right | .same _ left right | .operate _ left right =>
    left.reads level ++ right.reads level
  | .between _ _ a b c | .branch a b c => a.reads level ++ b.reads level ++ c.reads level
  | .among _ inside others => inside.reads level ++ Term.allRead level others
  | .amongRows _ insides plan => Term.allRead level insides ++ plan.reads level
  | .apply _ _ arguments => Term.allRead level arguments
  | .summary _ aggregate => aggregate.reads level
  | .first plan _ | .exists plan => plan.reads level

def Term.allRead (level : Nat) : List Term → List Nat
  | [] => []
  | term :: rest => term.reads level ++ Term.allRead level rest

/-- The columns that terms read which may be missing. -/
def Term.givenRead (level : Nat) : Option Term → List Nat
  | none => []
  | some term => term.reads level

def Term.keysRead (level : Nat) : Option (List Term) → List Nat
  | none => []
  | some terms => Term.allRead level terms

def Aggregate.reads (level : Nat) : Aggregate → List Nat
  | ⟨_, _, _, arguments, test, sorts, _⟩ =>
    Term.allRead level arguments ++ Term.givenRead level test ++ Term.allRead level sorts

def EdgeTerm.reads (level : Nat) : EdgeTerm → List Nat
  | .start | .here | .finish => []
  | .before count | .after count => count.reads level

def Windowed.reads (level : Nat) : Windowed → List Nat
  | ⟨_, arguments, test, partitions, _, sorts, _, _, first, last, _⟩ =>
    Term.allRead level arguments ++ Term.givenRead level test ++ Term.allRead level partitions ++
      Term.allRead level sorts ++ first.reads level ++ last.reads level

def Windowed.allRead (level : Nat) : List Windowed → List Nat
  | [] => []
  | window :: rest => window.reads level ++ Windowed.allRead level rest

def Rowset.reads (level : Nat) : Rowset → List Nat
  | .rows .. => []
  | .here width own => if own = level then List.range width else []
  | .plan _ plan => plan.reads level
  | .call _ arguments => Term.allRead level arguments
  | .join _ _ left right test => left.reads level ++ right.reads level ++ test.reads level

def Projection.reads (level : Nat) : Projection → List Nat
  | ⟨columns, _, _, groups, _, _, picked, having, windows, sorts, _⟩ =>
    Term.allRead level columns ++ Term.keysRead level groups ++ Term.allRead level picked ++
      Term.givenRead level having ++ Windowed.allRead level windows ++ Term.allRead level sorts

def Plan.reads (level : Nat) : Plan → List Nat
  | .one rowset filter projection limit offset =>
    rowset.reads level ++ Term.givenRead level filter ++ projection.reads level ++ Term.givenRead level limit ++
      Term.givenRead level offset
  | .both _ _ left right => left.reads level ++ right.reads level
  | .arranged _ limit offset plan => Term.givenRead level limit ++ Term.givenRead level offset ++ plan.reads level
  | .repeated _ _ start steps _ limit offset =>
    start.reads level ++ Plan.allRead level steps ++ Term.givenRead level limit ++ Term.givenRead level offset
  | .within depth plan => if depth ≤ level then [] else plan.reads level

def Plan.allRead (level : Nat) : List Plan → List Nat
  | [] => []
  | plan :: rest => plan.reads level ++ Plan.allRead level rest
end

namespace Term

/-- Whether a term is the column at a place. -/
def isAt (level place : Nat) : Term → Bool
  | .column own index => own = level && index = place
  | _ => false

/-- Whether a term is the same for all rows of a level. -/
def isGiven (level : Nat) (term : Term) : Bool := (term.reads level).isEmpty

/-- Whether a comparison is by the letters that a key is sorted by. -/
def isPlain (likeness : Likeness) : Bool := likeness.collation = .binary && !likeness.affinity.isNumeric

/-- Whether a test is the equality of a column with what is the same for all rows, or a choice of such. -/
def isEquality (level place : Nat) : Term → Bool
  | .versus likeness .eq left right =>
    isPlain likeness &&
      (left.isAt level place && right.isGiven level || right.isAt level place && left.isGiven level)
  | .among likeness inside others => isPlain likeness && inside.isAt level place && others.all (isGiven level)
  | .amongRows [likeness] [inside] plan =>
    isPlain likeness && inside.isAt level place && (plan.reads level).isEmpty
  | .or left right => left.isEquality level place && right.isEquality level place
  | _ => false

/-- Whether a test leaves a range of a column, or some values of it. -/
def leavesRange (level place : Nat) : Term → Bool
  | .and left right => left.leavesRange level place || right.leavesRange level place
  | .versus likeness relation left right =>
    relation ≠ .notEq && isPlain likeness &&
      (left.isAt level place && right.isGiven level || right.isAt level place && left.isGiven level)
  | .between low high inside lowest highest =>
    isPlain low && isPlain high && inside.isAt level place && lowest.isGiven level && highest.isGiven level
  | .null inside => inside.isAt level place
  | .same likeness left right =>
    isPlain likeness &&
      (left.isAt level place && right.isGiven level || right.isAt level place && left.isGiven level)
  | .apply .glob _ [.literal (.text pattern), inside] =>
    inside.isAt level place && pattern.toList.head?.any fun c => c ≠ '*' && c ≠ '?' && c ≠ '['
  | test => test.isEquality level place

/-- Whether a test leaves a range of an integer column. -/
def leavesNumbers (level place : Nat) : Term → Bool
  | .and left right => left.leavesNumbers level place || right.leavesNumbers level place
  | .versus _ relation left right =>
    relation ≠ .notEq &&
      (left.isAt level place && right.isGiven level || right.isAt level place && left.isGiven level)
  | .between _ _ inside lowest highest =>
    inside.isAt level place && lowest.isGiven level && highest.isGiven level
  | .among _ inside others => inside.isAt level place && others.all (isGiven level)
  | .amongRows _ [inside] _ => inside.isAt level place
  | _ => false

end Term

/-- The columns by which the rows of a table can be read: its key, if that is not the row's number, and the number. -/
structure ScanKeys where
  key : Nat
  number : Nat
  /-- Whether there are other columns besides. -/
  hasOthers : Bool

/-- The columns by which rows can be read, if that is not by their number alone. -/
def Heading.scanKeys? (header : List Heading) : Option ScanKeys := do
  let key ← header.findIdx? fun heading => heading.isKey && !heading.isRowKey
  let number ← header.findIdx? Heading.isRowKey
  return ⟨key, number, 2 < header.length⟩

/-- What is known of the rows that are asked for: the filter, if it can leave rows of the first table out, the columns
that are read, and the column by which equal rows are told apart first. -/
structure Reads where
  level : Nat := 0
  filter : Option Term := none
  columns : List Nat := []
  leading : Option Nat := none

namespace ScanKeys

/-- Whether rows are read in the order of the key. -/
def byKey (keys : ScanKeys) (reads : Reads) : Bool :=
  !reads.filter.any (Term.leavesNumbers reads.level keys.number) &&
    (reads.filter.any (Term.leavesRange reads.level keys.key) || reads.leading = some keys.key ||
      keys.hasOthers && reads.columns.all fun index => index = keys.key || index = keys.number)

/-- Rows in the order of the key. -/
def sort (keys : ScanKeys) (frames : List Frame) : List Frame :=
  frames.mergeSort fun a b => (a.getD keys.key .null).order (b.getD keys.key .null) ≠ .gt

end ScanKeys

/-- What is known of the columns from a place on. -/
def Reads.after (reads : Reads) (start width : Nat) : Reads :=
  let own (index : Nat) : Bool := start ≤ index && index < start + width
  { reads with
    columns := (reads.columns.filter own).map fun index => index - start
    leading := (reads.leading.filter own).map fun index => index - start }

/-- The rows of a source in the order in which they are read; its columns start at a place. -/
def Rowset.scanned (header : List Heading) (reads : Reads) (start : Nat) : Rowset → Rowset
  | .rows width frames =>
    match Heading.scanKeys? ((header.drop start).take width) with
    | some keys => .rows width (if keys.byKey (reads.after start width) then keys.sort frames else frames)
    | none => .rows width frames
  | .join keepsLeft keepsRight left right test =>
    let before := { reads with filter := if keepsRight then none else reads.filter }
    let after := { reads with filter := none, leading := none }
    .join keepsLeft keepsRight (left.scanned header before start) (right.scanned header after (start + left.width)) test
  | rowset => rowset

/-- The result of a query without what is not asked for: nothing is computed of columns that no one reads, unless they
decide which rows there are. -/
def Plan.asked (read : List Nat) : Plan → Plan
  | .within depth plan => .within depth (plan.asked read)
  | .one rowset filter projection limit offset =>
    if projection.distinct || projection.groups.isSome || !projection.windows.isEmpty then
      .one rowset filter projection limit offset
    else
      let columns := projection.columns.zipIdx.map fun (term, index) => if read.contains index then term else .literal .null
      .one rowset filter { projection with columns } limit offset
  | .both .unionAll collations left right => .both .unionAll collations (left.asked read) (right.asked read)
  | .arranged [] limit offset plan => .arranged [] limit offset (plan.asked read)
  | plan => plan

end RecordMapper
