import RecordMapper.Relational.Meaning

/-! Queries over the columns of one table: rows that pass the filter are grouped, sorted and put into columns. A query
with trusted text is none of them, as its text can change what the rest of it means. -/

namespace RecordMapper

/-- What a query puts into its result, as an expression. -/
def Item.resultColumn : Item → ResultColumn
  | .column name => .one (.name [name] true) none name
  | .expression text => .one (.name [text] true) none text
  | .one => .one (.literal (.int 1)) none "1"
  | .oneAs label => .one (.literal (.int 1)) (some label) label

/-- Columns of a filter with what they mean. -/
abbrev FilterColumns := List (ColumnRef × Meaning)

namespace FilterColumns

def ofFilter (level : Level) (filter : List Formula) : Except Fault FilterColumns :=
  (Formula.allColumns filter).eraseDups.mapM fun ref => do
    return (ref, ← Scope.find [level] false ref.parts true)

/-- What is read in the columns for a row. -/
def readings (columns : FilterColumns) (frame : Frame) : Except Fault (List (ColumnRef × ColumnReading)) :=
  columns.mapM fun (ref, meaning) => do
    return (ref, ⟨← meaning.term.value [{ row := frame }] .datum, meaning.sense.likeness {}⟩)

/-- Whether a row passes the filter. -/
def lets (columns : FilterColumns) (filter : List Formula) (frame : Frame) : Except Fault Bool := do
  let readings ← columns.readings frame
  return Formula.passes (fun ref => ((readings.find? fun entry => entry.1 = ref).map Prod.snd).getD ⟨.null, {}⟩) filter

/-- Whether a column of the filter is the one at a place. -/
def isAt (columns : FilterColumns) (place : Nat) (ref : ColumnRef) : Bool :=
  columns.any fun (column, meaning) => column = ref && meaning.term.isAt 0 place

end FilterColumns

namespace Formula

/-- Whether a formula is the equality of a column with a value. -/
def isEquality (isKey : ColumnRef → Bool) : List Formula → Bool
  | [.versus column .eq _] => isKey column
  | _ => false

mutual
/-- Whether a formula leaves a range of a column, or some values of it. -/
def ranges (isKey : ColumnRef → Bool) : Formula → Bool
  | .versus column relation _ => relation ≠ .notEq && isKey column
  | .between column negated _ _ | .among column negated _ | .null column negated => !negated && isKey column
  | .any [branch] => someRanges isKey branch
  | .any branches => branches.all (isEquality isKey)
  | _ => false

/-- Whether one of several formulas does. -/
def someRanges (isKey : ColumnRef → Bool) : List Formula → Bool
  | [] => false
  | formula :: rest => ranges isKey formula || someRanges isKey rest
end

end Formula

namespace Query

/-- The query as it is written, but for its filter and order. -/
def select (query : Query) : Select where
  columns := query.items.map Item.resultColumn
  origin := some (.table query.source.table query.source.aliasName)
  groups := query.groups.map fun ref => .name ref.parts true

/-- What the names of a query mean. -/
def sketch (tables : Tables) (query : Query) : Except Fault Sketch :=
  query.select.sketch { tables } fun inner results =>
    Sorting.resultMeanings inner results 0
      (query.sorts.map fun (ref, order) => { expression := .name ref.parts true, order })

/-- The rows that are read, in order. -/
def scanned (sketch : Sketch) (columns : FilterColumns) (filter : List Formula) : Except Fault (List Frame) := do
  let frames ← sketch.rowset.frames [] none
  match Heading.scanKeys? sketch.level.header with
  | none => return frames
  | some keys =>
    let reads : Reads := { columns := Term.allRead 0 (columns.map fun entry => entry.2.term) ++ sketch.projection.reads 0 }
    let ranged (place : Nat) : Bool := Formula.someRanges (columns.isAt place) filter
    let byKey := !ranged keys.number && (ranged keys.key || keys.byKey reads)
    return if byKey then keys.sort frames else frames

/-- The rows of a query's result. -/
def run (tables : Tables) (query : Query) : Except Fault (List Row) := do
  let sketch ← query.sketch tables
  let columns ← FilterColumns.ofFilter sketch.level query.filter
  let frames ← scanned sketch columns query.filter
  Formula.check (!frames.isEmpty) query.filter
  let results ← sketch.projection.rows [] sketch.rowset.width (columns.lets query.filter) {} none frames
  return results.map fun data => (sketch.results.map ResultMeaning.name).zip (data.map Datum.toCell)

/-- The number of rows of a query's result. -/
def count (tables : Tables) (query : Query) : Except Fault Nat := return (← query.run tables).length

end Query

/-- The number of rows of a source that pass a filter. -/
def RowSource.count (tables : Tables) (source : RowSource) (filter : List Formula) : Except Fault Nat :=
  Query.count tables ⟨[.one], source, filter, [], []⟩

end RecordMapper
