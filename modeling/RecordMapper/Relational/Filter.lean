import RecordMapper.Relational.Affinity
import RecordMapper.Relational.Datum.Text
import RecordMapper.Sql.Formula

/-! What row formulas mean: their truth for a row, given what each column holds there. -/

namespace RecordMapper

/-- What a column holds, and how that is compared. -/
structure ColumnReading where
  datum : Datum
  likeness : Likeness := {}

namespace Formula

mutual
/-- The truth of a formula, given what is read in columns. -/
def truth (env : ColumnRef → ColumnReading) : Formula → Truth
  | .versus column relation value => (env column).likeness.versus relation (env column).datum (.ofValue value)
  | .between column negated low high =>
    ((env column).likeness.between (env column).datum (.ofValue low) (.ofValue high)).negatedIf negated
  | .among column negated values =>
    ((env column).likeness.among (env column).datum (values.map .ofValue)).negatedIf negated
  | .like column negated pattern => ((env column).datum.alike (.ofValue pattern)).negatedIf negated
  | .null column negated => .ofBool ((env column).datum.isNull != negated)
  | .constant holds => .ofBool holds
  | .any branches => anyTruth env branches

/-- The truth of a choice: one branch holds. -/
def anyTruth (env : ColumnRef → ColumnReading) : List (List Formula) → Truth
  | [] => .no
  | branch :: rest => (allTruth env branch).or (anyTruth env rest)

/-- The truth of formulas together. -/
def allTruth (env : ColumnRef → ColumnReading) : List Formula → Truth
  | [] => .yes
  | formula :: rest => (truth env formula).and (allTruth env rest)
end

/-- Whether a row passes a filter. -/
def passes (env : ColumnRef → ColumnReading) (filter : List Formula) : Bool := (allTruth env filter).isTrue

mutual
/-- The columns that a formula names. -/
def columns : Formula → List ColumnRef
  | .versus column .. | .between column .. | .among column .. | .like column .. | .null column _ => [column]
  | .constant _ => []
  | .any branches => branchColumns branches

def branchColumns : List (List Formula) → List ColumnRef
  | [] => []
  | branch :: rest => allColumns branch ++ branchColumns rest

def allColumns : List Formula → List ColumnRef
  | [] => []
  | formula :: rest => columns formula ++ allColumns rest
end

/-- The height of a test of a column: a name with its owner is a level higher than the name alone. -/
def ColumnRef.height (column : ColumnRef) : Nat := min column.parts.length 2

/-- The height of what stands beside others with the same operator between: it grows to the left. -/
def chainHeight : List Nat → Nat
  | [] => 0
  | first :: rest => rest.foldl (fun height next => max height next + 1) first

mutual
/-- The height of a formula as a tree of operators. -/
def height : Formula → Nat
  | .versus column .. => max (ColumnRef.height column) 1 + 1
  | .between column negated .. | .like column negated _ => ColumnRef.height column + (if negated then 2 else 1)
  | .among column negated values =>
    (match values with
      | [_] => max (ColumnRef.height column) 2
      | _ => ColumnRef.height column) + (if negated then 2 else 1)
  | .null column _ => ColumnRef.height column + 1
  | .constant _ => 2
  | .any branches => chainHeight (branchHeights branches)

def branchHeights : List (List Formula) → List Nat
  | [] => []
  | branch :: rest => chainHeight (heights branch) :: branchHeights rest

def heights : List Formula → List Nat
  | [] => []
  | formula :: rest => height formula :: heights rest
end

mutual
/-- Whether a pattern is too long to be tested. -/
def hasLongPattern : Formula → Bool
  | .like _ _ pattern => (Datum.ofValue pattern).isLongPattern
  | .any branches => branchesHaveLongPattern branches
  | _ => false

def branchesHaveLongPattern : List (List Formula) → Bool
  | [] => false
  | branch :: rest => haveLongPattern branch || branchesHaveLongPattern rest

def haveLongPattern : List Formula → Bool
  | [] => false
  | formula :: rest => hasLongPattern formula || haveLongPattern rest
end

/-- Refuses a filter that is too high, or that has a pattern too long for the rows there are. -/
def check (hasRows : Bool) (filter : List Formula) : Except Fault Unit :=
  if Fault.greatestHeight < chainHeight (heights filter) then .error .tooHigh
  else if hasRows && haveLongPattern filter then .error "LIKE or GLOB pattern too complex"
  else .ok ()

end Formula

end RecordMapper
