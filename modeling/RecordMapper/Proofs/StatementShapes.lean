import RecordMapper.Proofs.Outcomes
import RecordMapper.Sql.Reads

/-! Shapes: conditions, formulas, pieces and statements in which one fixed value stands for every other. A statement's
text depends on its shape only, and building a statement commutes with taking shapes. -/

namespace RecordMapper

/-- One value in the place of every other. -/
def Value.shape (_ : Value) : Value := .bool true

/-- Null is kept where a relation is tested with it, since there it is no value to bind. -/
def Test.shape : Test → Test
  | .versus relation .null => .versus relation .null
  | .versus relation value => .versus relation value.shape
  | .between negated low high => .between negated low.shape high.shape
  | .among negated values => .among negated (values.map Value.shape)
  | .like negated pattern => .like negated pattern.shape
  | .null negated => .null negated

namespace Predicate

mutual
def shape : Predicate → Predicate
  | .compare key test => .compare key test.shape
  | .any branches => .any (branchShapes branches)

def shapes : List Predicate → List Predicate
  | [] => []
  | predicate :: rest => shape predicate :: shapes rest

def branchShapes : List (List Predicate) → List (List Predicate)
  | [] => []
  | branch :: rest => shapes branch :: branchShapes rest
end

end Predicate

def Upset.shape (upset : Upset) : Upset := ⟨upset.keys, upset.values.map Value.shape⟩

/-- What is left of a condition besides the values it binds. -/
def Condition.shape (condition : Condition) : Condition :=
  { condition with predicates := Predicate.shapes condition.predicates, upset := condition.upset.map Upset.shape }

namespace Formula

mutual
def shape : Formula → Formula
  | .versus column relation value => .versus column relation value.shape
  | .between column negated low high => .between column negated low.shape high.shape
  | .among column negated values => .among column negated (values.map Value.shape)
  | .like column negated pattern => .like column negated pattern.shape
  | .null column negated => .null column negated
  | .constant holds => .constant holds
  | .any branches => .any (branchShapes branches)

def shapes : List Formula → List Formula
  | [] => []
  | formula :: rest => shape formula :: shapes rest

def branchShapes : List (List Formula) → List (List Formula)
  | [] => []
  | branch :: rest => shapes branch :: branchShapes rest
end

end Formula

def Piece.shape : Piece → Piece
  | .slot value => .slot value.shape
  | piece => piece

def Query.shape (query : Query) : Query := { query with filter := Formula.shapes query.filter }

def Command.shape : Command → Command
  | .insert table columns rows => .insert table columns (rows.map (List.map Value.shape))
  | .updateByKey table key columns keys =>
    .updateByKey table key (columns.map fun (column, arms) => (column, arms.map (Prod.map Value.shape Value.shape)))
      (keys.map Value.shape)
  | .updateWhere table columns filter =>
    .updateWhere table (columns.map (Prod.map id Value.shape)) (Formula.shapes filter)
  | .delete table filter => .delete table (Formula.shapes filter)
  | .select query => .select query.shape
  | .countRows source filter => .countRows source (Formula.shapes filter)
  | .countResult query => .countResult query.shape
  | .raw text params => .raw text (params.map Value.shape)
  | command => command

def Statement.shape (statement : Statement) : Statement := ⟨statement.command.shape, statement.limits⟩

theorem Piece.texts_shape (dialect : Dialect) (pieces : List Piece) (index : Nat) :
    texts dialect index (pieces.map shape) = texts dialect index pieces := by
  induction pieces generalizing index with
  | nil => rfl
  | cons piece rest ih => cases piece <;> exact congrArg (List.cons _) (ih _)

theorem Piece.separated_shape (separator : String) : ∀ groups : List (List Piece),
    (separated separator groups).map shape = separated separator (groups.map (List.map shape))
  | [] => rfl
  | [group] => rfl
  | group :: second :: rest => by
    have later := separated_shape separator (second :: rest)
    simp only [List.map_cons] at later
    simp only [List.map_cons, separated, later, List.map_append, shape]

theorem Piece.slots_shape (values : List Value) : (slots values).map shape = slots (values.map Value.shape) := by
  simp [slots, separated_shape, List.map_map, Function.comp_def, shape]

theorem ColumnRef.pieces_shape (column : ColumnRef) : column.pieces.map Piece.shape = column.pieces := by
  simp [pieces, Piece.separated_shape, List.map_map, Function.comp_def, Piece.shape]

namespace Formula

mutual
theorem pieces_shape : ∀ formula : Formula, formula.shape.pieces = formula.pieces.map Piece.shape
  | .versus column _ _ | .between column _ _ _ | .like column _ _ | .null column _ => by
    simp [shape, pieces, ColumnRef.pieces_shape, Piece.shape]
  | .among column _ values => by
    simp [shape, pieces, ColumnRef.pieces_shape, Piece.slots_shape, Piece.shape]
  | .constant _ => rfl
  | .any branches => by
    simp [shape, pieces, branchPieces_shape branches, Piece.shape]

theorem branchPieces_shape : ∀ branches : List (List Formula),
    branchPieces (branchShapes branches) = (branchPieces branches).map Piece.shape
  | [] => rfl
  | [branch] => bracketed_shape branch
  | branch :: second :: rest => by
    have later := branchPieces_shape (second :: rest)
    simp only [branchShapes] at later
    simp [branchShapes, branchPieces, bracketed_shape branch, later, Piece.shape]

theorem bracketed_shape : ∀ branch : List Formula, bracketed (shapes branch) = (bracketed branch).map Piece.shape
  | [] => rfl
  | [formula] => pieces_shape formula
  | formula :: second :: rest => by
    have later := conjoined_shape (second :: rest)
    simp only [shapes] at later
    simp [shapes, bracketed, pieces_shape formula, later, Piece.shape]

theorem conjoined_shape : ∀ formulas : List Formula, conjoined (shapes formulas) = (conjoined formulas).map Piece.shape
  | [] => rfl
  | formula :: rest => by
    simp [shapes, conjoined, pieces_shape formula, conjoined_shape rest, Piece.shape]
end

theorem wherePieces_shape (filter : List Formula) : wherePieces (shapes filter) = (wherePieces filter).map Piece.shape := by
  cases filter with
  | nil => rfl
  | cons formula rest =>
    simp [shapes, wherePieces, allPieces, pieces_shape formula, conjoined_shape rest, Piece.shape]

end Formula

theorem TableRef.pieces_shape (table : TableRef) : table.pieces.map Piece.shape = table.pieces := by
  obtain ⟨database, name⟩ := table
  cases database <;> rfl

theorem RowSource.pieces_shape (source : RowSource) : source.pieces.map Piece.shape = source.pieces := by
  have named (aliasName : Option String) : (aliasPieces aliasName).map Piece.shape = aliasPieces aliasName := by
    cases aliasName <;> rfl
  obtain ⟨table, aliasName, join⟩ := source
  cases join with
  | none => simp [pieces, TableRef.pieces_shape, named]
  | some join => simp [pieces, JoinedTable.pieces, TableRef.pieces_shape, named, Piece.shape]

theorem groupPieces_shape (groups : List ColumnRef) : (groupPieces groups).map Piece.shape = groupPieces groups := by
  unfold groupPieces
  split
  · rfl
  · simp [Piece.separated_shape, ColumnRef.pieces_shape, Function.comp_def, Piece.shape]

theorem sortPieces_shape (sorts : List (ColumnRef × Order)) : (sortPieces sorts).map Piece.shape = sortPieces sorts := by
  unfold sortPieces
  split
  · rfl
  · simp [Piece.separated_shape, ColumnRef.pieces_shape, Function.comp_def, Piece.shape]

theorem Query.pieces_shape (query : Query) : query.shape.pieces = query.pieces.map Piece.shape := by
  have item (item : Item) : item.pieces.map Piece.shape = item.pieces := by
    cases item <;> rfl
  simp [shape, pieces, Formula.wherePieces_shape, RowSource.pieces_shape, groupPieces_shape, sortPieces_shape,
    Piece.separated_shape, item, Function.comp_def, Piece.shape]

theorem casePieces_shape (key : String) (arms : List (Value × Value)) :
    casePieces key (arms.map (Prod.map Value.shape Value.shape)) = (casePieces key arms).map Piece.shape := by
  simp [casePieces, List.map_flatMap, List.flatMap_map, Piece.shape]

theorem Command.sections_shape (command : Command) :
    command.shape.sections = command.sections.map (List.map Piece.shape) := by
  cases command with
  | insert table columns rows =>
    simp [shape, sections, TableRef.pieces_shape, Piece.separated_shape, Piece.slots_shape, Function.comp_def, Piece.shape]
  | updateByKey table key columns keys =>
    simp [shape, sections, TableRef.pieces_shape, Piece.separated_shape, Piece.slots_shape, casePieces_shape,
      Function.comp_def, Piece.shape]
  | updateWhere table columns filter =>
    simp [shape, sections, TableRef.pieces_shape, Piece.separated_shape, Formula.wherePieces_shape, Function.comp_def,
      Piece.shape]
  | delete table filter => simp [shape, sections, TableRef.pieces_shape, Formula.wherePieces_shape, Piece.shape]
  | select query => simp [shape, sections, Query.pieces_shape]
  | countRows source filter => simp [shape, sections, RowSource.pieces_shape, Formula.wherePieces_shape, Piece.shape]
  | countResult query => simp [shape, sections, Query.pieces_shape, Piece.shape]
  | createTable table columns =>
    have column (column : ColumnDef) : column.pieces.map Piece.shape = column.pieces := by
      unfold ColumnDef.pieces
      split_ifs <;> rfl
    simp [shape, sections, TableRef.pieces_shape, Piece.separated_shape, column, Function.comp_def, Piece.shape]
  | dropTable table => simp [shape, sections, TableRef.pieces_shape, Piece.shape]
  | raw text params => rfl

/-- The text of a statement is that of its shape. -/
theorem Statement.text_shape (dialect : Dialect) (statement : Statement) :
    statement.shape.text dialect = statement.text dialect := by
  have joined : Piece.join dialect ∘ List.map Piece.shape = Piece.join dialect := by
    funext pieces
    exact congrArg String.join (Piece.texts_shape dialect pieces 1)
  simp [text, sections, shape, Command.sections_shape, joined]

theorem Statement.text_of_shape_eq (dialect : Dialect) {first second : Statement} (same : first.shape = second.shape) :
    first.text dialect = second.text dialect := by
  rw [← text_shape, same, text_shape]

namespace Outcome

theorem map_of_bind (first : Except ε α) (next : α → Except ε β) (f : β → γ) :
    (first >>= next).map f = first >>= fun found => (next found).map f := by
  cases first <;> rfl

theorem bind_of_map (first : Except ε α) (f : α → β) (next : β → Except ε γ) :
    first.map f >>= next = first >>= fun found => next (f found) := by
  cases first <;> rfl

end Outcome

namespace Formula
open Outcome

theorem ofTest_shape (key : String) (test : Test) : ofTest key test.shape = (ofTest key test).map shape := by
  cases test with
  | versus relation value => cases value <;> cases relation <;> rfl
  | among negated values => cases values <;> rfl
  | between _ _ _ | like _ _ | null _ => rfl

theorem isEmpty_shapes (formulas : List Formula) : (shapes formulas).isEmpty = formulas.isEmpty := by
  cases formulas <;> rfl

mutual
theorem ofPredicate_shape : ∀ predicate : Predicate,
    ofPredicate predicate.shape = (ofPredicate predicate).map (Option.map shape)
  | .compare key test => by
    simp only [Predicate.shape, ofPredicate_compare_eq, ofTest_shape, map_of_bind, bind_of_map]
    rfl
  | .any branches => by
    simp only [Predicate.shape, ofPredicate_any_eq, ofBranches_shape branches, map_of_bind, bind_of_map]
    congr
    funext found
    cases found <;> rfl

theorem ofPredicates_shape : ∀ predicates : List Predicate,
    ofPredicates (Predicate.shapes predicates) = (ofPredicates predicates).map shapes
  | [] => rfl
  | predicate :: rest => by
    simp only [Predicate.shapes, ofPredicates_cons_eq, ofPredicate_shape predicate, ofPredicates_shape rest, map_of_bind, bind_of_map]
    -- both sides run the same steps, and differ in where the shape of what they find is taken
    congr
    funext kept
    congr
    funext others
    cases kept <;> simp [pure, Except.pure, Except.map, shapes]

theorem ofBranches_shape : ∀ branches : List (List Predicate),
    ofBranches (Predicate.branchShapes branches) = (ofBranches branches).map branchShapes
  | [] => rfl
  | branch :: rest => by
    simp only [Predicate.branchShapes, ofBranches_cons_eq, ofPredicates_shape branch, ofBranches_shape rest, map_of_bind, bind_of_map,
      isEmpty_shapes]
    congr
    funext first
    congr
    funext others
    cases first <;> rfl
end

end Formula

namespace Predicate

theorem isVacuous_shape (test : Test) : test.shape.isVacuous = test.isVacuous := by
  cases test with
  | versus relation value => cases value <;> rfl
  | among negated values => cases negated <;> cases values <;> rfl
  | between _ _ _ | like _ _ | null _ => rfl

mutual
theorem renders_shape : ∀ predicate : Predicate, predicate.shape.renders = predicate.renders
  | .compare _ _ => rfl
  | .any branches => branchesRender_shape branches

theorem listRenders_shape : ∀ predicates : List Predicate, listRenders (shapes predicates) = listRenders predicates
  | [] => rfl
  | predicate :: rest => by
    rw [shapes, listRenders, listRenders, renders_shape predicate, listRenders_shape rest]

theorem branchesRender_shape : ∀ branches : List (List Predicate),
    branchesRender (branchShapes branches) = branchesRender branches
  | [] => rfl
  | branch :: rest => by
    rw [branchShapes, branchesRender, branchesRender, listRenders_shape branch, branchesRender_shape rest]
end

mutual
theorem restricts_shape : ∀ predicate : Predicate, predicate.shape.restricts = predicate.restricts
  | .compare _ test => congrArg not (isVacuous_shape test)
  | .any branches => congrArg₂ and (branchesRender_shape branches) (branchesRestrict_shape branches)

theorem listRestricts_shape : ∀ predicates : List Predicate,
    listRestricts (shapes predicates) = listRestricts predicates
  | [] => rfl
  | predicate :: rest => by
    rw [shapes, listRestricts, listRestricts, restricts_shape predicate, listRestricts_shape rest]

theorem branchesRestrict_shape : ∀ branches : List (List Predicate),
    branchesRestrict (branchShapes branches) = branchesRestrict branches
  | [] => rfl
  | branch :: rest => by
    rw [branchShapes, branchesRestrict, branchesRestrict, listRenders_shape branch, listRestricts_shape branch,
      branchesRestrict_shape rest]
end

end Predicate

/-- The statements that are made from a condition. -/
inductive Building where
  | select (metadata : Metadata)
  | selectComplex
  | count (metadata : Option Metadata)
  | exists? (metadata : Metadata)
  | updateByCondition (metadata : Metadata)
  | deleteByCondition (metadata : Metadata)

namespace Building
open Outcome

def make (database : Option String) (condition : Condition) : Building → Outcome Statement
  | .select metadata => Statement.select database metadata condition
  | .selectComplex => Statement.selectComplex database condition
  | .count metadata => Statement.count database metadata condition
  | .exists? metadata => Statement.exists? database metadata condition
  | .updateByCondition metadata => Statement.updateByCondition database metadata condition
  | .deleteByCondition metadata => Statement.deleteByCondition database metadata condition

theorem formulas_shape (condition : Condition) : condition.shape.formulas = condition.formulas.map Formula.shapes :=
  Formula.ofPredicates_shape condition.predicates

theorem restrictsRows_shape (condition : Condition) : condition.shape.restrictsRows = condition.restrictsRows :=
  Predicate.listRestricts_shape condition.predicates

theorem guarded_map {refused : Prop} [Decidable refused] (cause : Failure) (after : α → Outcome Statement)
    (next : Outcome Statement) :
    (if refused then throw cause >>= after else next).map Statement.shape =
      if refused then throw cause >>= after else next.map Statement.shape := by
  split <;> rfl

theorem updateByCondition_shape (database : Option String) (metadata : Metadata) (condition : Condition) :
    Statement.updateByCondition database metadata condition.shape =
      (Statement.updateByCondition database metadata condition).map Statement.shape := by
  have given : condition.shape.upset = condition.upset.map Upset.shape := rfl
  unfold Statement.updateByCondition
  rw [given]
  cases condition.upset with
  | none => rfl
  | some upset =>
    simp only [Option.map_some, Upset.shape]
    split
    · rfl
    · simp only [pure_bind, restrictsRows_shape, formulas_shape, guarded_map, map_of_bind, bind_of_map, List.length_map,
        List.zip_map_right]
      rfl

/-- Building a statement does not look at the values. -/
theorem make_shape (database : Option String) (condition : Condition) (building : Building) :
    building.make database condition.shape = (building.make database condition).map Statement.shape := by
  cases building with
  | select metadata =>
    show Statement.select database metadata condition.shape = (Statement.select database metadata condition).map Statement.shape
    simp only [Statement.select, formulas_shape, map_of_bind, bind_of_map]
    rfl
  | selectComplex =>
    show Statement.selectComplex database condition.shape = (Statement.selectComplex database condition).map Statement.shape
    simp only [Statement.selectComplex, formulas_shape, guarded_map, map_of_bind, bind_of_map]
    rfl
  | count metadata =>
    show Statement.count database metadata condition.shape = (Statement.count database metadata condition).map Statement.shape
    have complex : condition.shape.isComplex = condition.isComplex := rfl
    have grouped : condition.shape.groupRefs = condition.groupRefs := rfl
    simp only [Statement.count, formulas_shape, complex, grouped, map_of_bind, bind_of_map]
    congr
    funext filter
    congr
    funext groups
    -- complex conditions count their own query; the others count rows, or the groups of a query
    split
    · simp only [guarded_map, map_of_bind]
      rfl
    · simp only [map_of_bind]
      congr
      funext table
      split <;> rfl
  | exists? metadata =>
    show Statement.exists? database metadata condition.shape = (Statement.exists? database metadata condition).map Statement.shape
    simp only [Statement.exists?, formulas_shape, map_of_bind, bind_of_map]
    rfl
  | updateByCondition metadata => exact updateByCondition_shape database metadata condition
  | deleteByCondition metadata =>
    show Statement.deleteByCondition database metadata condition.shape =
      (Statement.deleteByCondition database metadata condition).map Statement.shape
    simp only [Statement.deleteByCondition, formulas_shape, restrictsRows_shape, guarded_map, map_of_bind, bind_of_map]
    rfl

end Building

end RecordMapper
