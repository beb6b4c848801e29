import RecordMapper.Dialect
import RecordMapper.Sql.Formula

/-! Pieces of SQL text. Values stand in pieces of their own and leave only a placeholder in the text, so no
value can become part of it; the parameters of a text are the values of its pieces in order. -/

namespace RecordMapper

inductive Piece where
  /-- A keyword or punctuation. -/
  | fixed (text : String)
  /-- A table or column name, to be quoted. -/
  | name (name : String)
  /-- A parameter. -/
  | slot (value : Value)
  /-- A trusted expression, written as it is. -/
  | raw (text : String)
  | type (kind : Kind) (capacity : Option Nat)
  | limit (plan : PagePlan)

namespace Piece

def value? : Piece → Option Value
  | .slot value => some value
  | _ => none

/-- The text of a piece whose parameter, if it is one, has the given number. -/
def text (dialect : Dialect) (index : Nat) : Piece → String
  | .fixed plain => plain
  | .name plain => dialect.quote plain
  | .slot _ => dialect.placeholder index
  | .raw plain => plain
  | .type kind capacity => dialect.columnType kind capacity
  | .limit plan => dialect.limitClause plan.offset.toNat plan.count.toNat

/-- The texts of pieces in order, parameters numbered from `index`. -/
def texts (dialect : Dialect) : Nat → List Piece → List String
  | _, [] => []
  | index, piece :: rest =>
    piece.text dialect index :: texts dialect (if piece.value?.isSome then index + 1 else index) rest

/-- The text of pieces, parameters numbered from one. -/
def join (dialect : Dialect) (pieces : List Piece) : String := String.join (texts dialect 1 pieces)

def params (pieces : List Piece) : List Value := pieces.filterMap value?

/-- Groups of pieces with a separator between them. -/
def separated (separator : String) : List (List Piece) → List Piece
  | [] => []
  | [group] => group
  | group :: rest => group ++ .fixed separator :: separated separator rest

/-- A bracketed list of parameters. -/
def slots (values : List Value) : List Piece :=
  .fixed "(" :: (separated ", " (values.map fun value => [.slot value]) ++ [.fixed ")"])

end Piece

def ColumnRef.pieces (column : ColumnRef) : List Piece :=
  Piece.separated "." (column.parts.map fun part => [.name part])

namespace Formula

mutual
def pieces : Formula → List Piece
  | .versus column relation value => column.pieces ++ [.fixed (" " ++ relation.symbol ++ " "), .slot value]
  | .between column negated low high =>
    column.pieces ++
      [.fixed (if negated then " NOT BETWEEN " else " BETWEEN "), .slot low, .fixed " AND ", .slot high]
  | .among column negated values =>
    column.pieces ++ .fixed (if negated then " NOT IN " else " IN ") :: Piece.slots values
  | .like column negated pattern =>
    column.pieces ++ [.fixed (if negated then " NOT LIKE " else " LIKE "), .slot pattern]
  | .null column negated => column.pieces ++ [.fixed (if negated then " IS NOT NULL" else " IS NULL")]
  | .constant holds => [.fixed (if holds then "1 = 1" else "1 = 0")]
  | .any branches => .fixed "(" :: (branchPieces branches ++ [.fixed ")"])

/-- Branches joined by OR; a branch of several formulas stands in brackets. -/
def branchPieces : List (List Formula) → List Piece
  | [] => []
  | [branch] => bracketed branch
  | branch :: rest => bracketed branch ++ .fixed " OR " :: branchPieces rest

def bracketed : List Formula → List Piece
  | [] => []
  | [formula] => pieces formula
  | formula :: rest => .fixed "(" :: (pieces formula ++ (conjoined rest ++ [.fixed ")"]))

/-- Formulas that follow another one. -/
def conjoined : List Formula → List Piece
  | [] => []
  | formula :: rest => .fixed " AND " :: (pieces formula ++ conjoined rest)
end

/-- Formulas joined by AND. -/
def allPieces : List Formula → List Piece
  | [] => []
  | formula :: rest => pieces formula ++ conjoined rest

/-- The WHERE clause, empty without formulas. -/
def wherePieces (formulas : List Formula) : List Piece :=
  if formulas.isEmpty then [] else .fixed " WHERE " :: allPieces formulas

end Formula

end RecordMapper
