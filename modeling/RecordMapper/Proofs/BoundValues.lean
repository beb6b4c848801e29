import RecordMapper.Proofs.ConditionFormulas
import RecordMapper.Proofs.StatementShapes
import RecordMapper.Proofs.UpdateBatches
import RecordMapper.Proofs.UpdatePlaceholders

/-! Values are bound and never written. Two conditions of one shape make statements with one text, or fail alike, and each
statement binds its own condition's values, from the same places. -/

namespace RecordMapper
open Outcome Clause

/-- Whether each value of a test is bound: null is not where a relation is tested with it. -/
def Test.binds : Test → List Bool
  | .versus _ .null => [false]
  | test => test.values.map fun _ => true

namespace Predicate

mutual
/-- All values in the order of writing. -/
def values : Predicate → List Value
  | .compare _ test => test.values
  | .any branches => branchValues branches

def listValues : List Predicate → List Value
  | [] => []
  | predicate :: rest => values predicate ++ listValues rest

def branchValues : List (List Predicate) → List Value
  | [] => []
  | branch :: rest => listValues branch ++ branchValues rest
end

mutual
def binds : Predicate → List Bool
  | .compare _ test => test.binds
  | .any branches => branchesBind branches

def listBinds : List Predicate → List Bool
  | [] => []
  | predicate :: rest => binds predicate ++ listBinds rest

def branchesBind : List (List Predicate) → List Bool
  | [] => []
  | branch :: rest => listBinds branch ++ branchesBind rest
end

end Predicate

/-- Items at the marked places. -/
def chosen : List Bool → List α → List α
  | true :: marks, item :: rest => item :: chosen marks rest
  | false :: marks, _ :: rest => chosen marks rest
  | _, _ => []

theorem chosen_append (marks more : List Bool) (items rest : List α) (each : marks.length = items.length) :
    chosen (marks ++ more) (items ++ rest) = chosen marks items ++ chosen more rest := by
  induction marks generalizing items with
  | nil =>
    obtain rfl : items = [] := List.eq_nil_of_length_eq_zero each.symm
    cases more <;> rfl
  | cons mark marks ih =>
    obtain ⟨item, items, rfl⟩ := List.exists_cons_of_length_eq_add_one each.symm
    have later := ih items (by simpa using each)
    cases mark
    · exact later
    · exact congrArg (List.cons item) later

theorem chosen_all (items : List α) : chosen (items.map fun _ => true) items = items := by
  induction items with
  | nil => rfl
  | cons item rest ih => exact congrArg (List.cons item) ih

theorem chosen_none (items : List α) : chosen (items.map fun _ => false) items = [] := by
  induction items with
  | nil => rfl
  | cons item rest ih => exact ih

theorem Test.length_binds (test : Test) : test.binds.length = test.values.length := by
  unfold binds
  split
  · rfl
  · exact List.length_map _

theorem Test.binds_shape (test : Test) : test.shape.binds = test.binds := by
  cases test with
  | versus relation value => cases value <;> rfl
  | among negated values => simp [shape, binds, Test.values]
  | between _ _ _ | like _ _ | null _ => rfl

namespace Predicate

mutual
theorem length_binds : ∀ predicate : Predicate, predicate.binds.length = predicate.values.length
  | .compare _ test => test.length_binds
  | .any branches => length_branchesBind branches

theorem length_listBinds : ∀ predicates : List Predicate, (listBinds predicates).length = (listValues predicates).length
  | [] => rfl
  | predicate :: rest => by
    rw [listBinds, listValues, List.length_append, List.length_append, length_binds predicate, length_listBinds rest]

theorem length_branchesBind : ∀ branches : List (List Predicate),
    (branchesBind branches).length = (branchValues branches).length
  | [] => rfl
  | branch :: rest => by
    rw [branchesBind, branchValues, List.length_append, List.length_append, length_listBinds branch,
      length_branchesBind rest]
end

mutual
theorem binds_shape : ∀ predicate : Predicate, predicate.shape.binds = predicate.binds
  | .compare _ test => test.binds_shape
  | .any branches => branchesBind_shape branches

theorem listBinds_shape : ∀ predicates : List Predicate, listBinds (shapes predicates) = listBinds predicates
  | [] => rfl
  | predicate :: rest => by rw [shapes, listBinds, listBinds, binds_shape predicate, listBinds_shape rest]

theorem branchesBind_shape : ∀ branches : List (List Predicate),
    branchesBind (branchShapes branches) = branchesBind branches
  | [] => rfl
  | branch :: rest => by
    rw [branchShapes, branchesBind, branchesBind, listBinds_shape branch, branchesBind_shape rest]
end

end Predicate

namespace Formula

/-- The values that formulas bind. -/
def bound (formulas : List Formula) : List Value := formulas.flatMap fun formula => Piece.params formula.pieces

theorem params_column (column : ColumnRef) : Piece.params column.pieces = [] := Piece.silent_value.column column

theorem params_conjoined (formulas : List Formula) : Piece.params (conjoined formulas) = bound formulas := by
  induction formulas with
  | nil => rfl
  | cons formula rest ih =>
    rw [conjoined, Piece.params_fixed, Piece.params_append, ih]
    rfl

theorem params_allPieces (formulas : List Formula) : Piece.params (allPieces formulas) = bound formulas := by
  cases formulas with
  | nil => rfl
  | cons formula rest =>
    rw [allPieces, Piece.params_append, params_conjoined]
    rfl

theorem params_bracketed (branch : List Formula) : Piece.params (bracketed branch) = bound branch := by
  cases branch with
  | nil => rfl
  | cons formula rest =>
    cases rest with
    | nil => exact (List.append_nil _).symm
    | cons second rest =>
      simp only [bracketed, Piece.params_fixed, Piece.params_append, params_conjoined]
      rw [Piece.params_nil, List.append_nil]
      rfl

theorem params_branchPieces (branches : List (List Formula)) :
    Piece.params (branchPieces branches) = branches.flatMap bound := by
  induction branches with
  | nil => rfl
  | cons branch rest ih =>
    cases rest with
    | nil => rw [branchPieces, params_bracketed, List.flatMap_singleton]
    | cons second rest =>
      rw [branchPieces, Piece.params_append, Piece.params_fixed, params_bracketed, ih]
      · rfl
      · exact List.cons_ne_nil second rest

theorem bound_ofTest {key : String} {test : Test} {formula : Formula} (made : ofTest key test = .ok formula) :
    Piece.params formula.pieces = chosen test.binds test.values := by
  cases test with
  | versus relation value =>
    -- null is written as IS NULL or IS NOT NULL, or refused, and leaves no slot
    cases value <;> cases relation <;> cases made <;>
      simp [pieces, Piece.params_append, params_column, Test.binds, Test.values, chosen]
  | among negated values =>
    cases values with
    | nil => cases made; rfl
    | cons first rest =>
      cases made
      simp only [pieces, Piece.params_append, params_column, Piece.params_fixed, Piece.params_slots]
      exact (chosen_all _).symm
  | between _ _ _ | like _ _ | null _ =>
    cases made
    simp [pieces, Piece.params_append, params_column, Test.binds, Test.values, chosen]

mutual
theorem bound_ofPredicate : ∀ {predicate : Predicate} {kept : Option Formula}, ofPredicate predicate = .ok kept →
    bound kept.toList = chosen predicate.binds predicate.values
  | .compare _ test, _, made => by
    obtain ⟨formula, _, tested, rfl⟩ := ofPredicate_compare.mp made
    exact (List.append_nil _).trans (bound_ofTest tested)
  | .any branches, _, made => by
    obtain ⟨found, inside, rfl⟩ := ofPredicate_any.mp made
    rw [Predicate.binds, Predicate.values, ← bound_ofBranches inside]
    -- branches that all came out empty are dropped, and then they bound nothing
    by_cases none : found = []
    · simp [none, bound]
    · simp [none, bound, pieces, params_branchPieces, Piece.params_append]

theorem bound_ofPredicates : ∀ {predicates : List Predicate} {filter : List Formula},
    ofPredicates predicates = .ok filter → bound filter = chosen (Predicate.listBinds predicates) (Predicate.listValues predicates)
  | [], _, made => by
    cases made
    rfl
  | predicate :: rest, _, made => by
    obtain ⟨kept, others, first, second, rfl⟩ := ofPredicates_cons.mp made
    rw [Predicate.listBinds, Predicate.listValues, chosen_append _ _ _ _ predicate.length_binds, ← bound_ofPredicate first,
      ← bound_ofPredicates second]
    exact List.flatMap_append

theorem bound_ofBranches : ∀ {branches : List (List Predicate)} {found : List (List Formula)},
    ofBranches branches = .ok found →
      found.flatMap bound = chosen (Predicate.branchesBind branches) (Predicate.branchValues branches)
  | [], _, made => by
    cases made
    rfl
  | branch :: rest, _, made => by
    obtain ⟨first, others, inside, more, rfl⟩ := ofBranches_cons.mp made
    rw [Predicate.branchesBind, Predicate.branchValues, chosen_append _ _ _ _ (Predicate.length_listBinds branch),
      ← bound_ofPredicates inside, ← bound_ofBranches more]
    by_cases none : first = []
    · simp [none, bound]
    · simp [none]
end

end Formula

theorem Query.params_pieces (query : Query) : Piece.params query.pieces = Formula.bound query.filter := by
  have items : (query.items.flatMap fun item => item.pieces.filterMap Piece.value?) = [] := by
    refine List.flatMap_eq_nil_iff.mpr fun item _ => ?_
    cases item <;> rfl
  have joined : (query.source.join.toList.filterMap fun join => (Piece.raw join.expression).value?) = [] :=
    List.filterMap_eq_nil_iff.mpr fun _ _ => rfl
  rw [Piece.params, Piece.silent_value.query, items, joined, ← Formula.params_allPieces, ← Formula.params_wherePieces]
  rfl

/-- All values of a condition: the new ones, and those of its predicates. -/
def Condition.values (condition : Condition) : List Value :=
  (condition.upset.elim [] Upset.values) ++ Predicate.listValues condition.predicates

namespace Building

/-- Whether the new values of a condition are bound. -/
def sets : Building → Bool
  | .updateByCondition _ => true
  | _ => false

/-- Which of a condition's values are bound. -/
def binds (building : Building) (condition : Condition) : List Bool :=
  ((condition.upset.elim [] Upset.values).map fun _ => building.sets) ++ Predicate.listBinds condition.predicates

theorem length_binds (building : Building) (condition : Condition) :
    (building.binds condition).length = condition.values.length := by
  rw [binds, Condition.values, List.length_append, List.length_append, List.length_map, Predicate.length_listBinds]

theorem binds_shape (building : Building) (condition : Condition) :
    building.binds condition.shape = building.binds condition := by
  have predicates := Predicate.listBinds_shape condition.predicates
  cases given : condition.upset with
  | none => simp [binds, Condition.shape, given, predicates]
  | some upset => simp [binds, Condition.shape, given, Upset.shape, predicates, Function.comp_def]

variable {database : Option String} {condition : Condition} {statement : Statement}

theorem params_where {building : Building} (unset : building.sets = false) {filter : List Formula}
    (formulas : condition.formulas = .ok filter) :
    Formula.bound filter = chosen (building.binds condition) condition.values := by
  rw [binds, Condition.values, chosen_append _ _ _ _ (List.length_map _), unset, chosen_none, List.nil_append]
  exact Formula.bound_ofPredicates formulas

theorem params_select (query : Query) (limits : List PagePlan) :
    Statement.params ⟨.select query, limits⟩ = Formula.bound query.filter :=
  (List.append_nil _).trans query.params_pieces

theorem params_countRows (table : TableRef) (filter : List Formula) :
    Statement.params ⟨.countRows { table } filter, []⟩ = Formula.bound filter := by
  have unlabelled : Piece.params (aliasPieces none) = [] := rfl
  simp [Statement.params, Command.params, Command.sections, RowSource.pieces, Piece.params_append, params_table, unlabelled,
    Formula.params_wherePieces, Formula.params_allPieces]

theorem params_countResult (query : Query) : Statement.params ⟨.countResult query, []⟩ = Formula.bound query.filter := by
  simp [Statement.params, Command.params, Command.sections, Piece.params_append, query.params_pieces]

theorem params_delete (table : TableRef) (filter : List Formula) :
    Statement.params ⟨.delete table filter, []⟩ = Formula.bound filter := by
  simp [Statement.params, Command.params, Command.sections, Piece.params_append, params_table, Formula.params_wherePieces,
    Formula.params_allPieces]

/-- A statement binds the values of its condition that stand at the places it binds from. -/
theorem params_make (building : Building) (made : building.make database condition = .ok statement) :
    statement.params = chosen (building.binds condition) condition.values := by
  cases building with
  | select metadata =>
    obtain ⟨filter, items, table, groups, sorts, formulas, _, _, _, _, rfl⟩ := Statement.select_eq_ok.mp made
    rw [params_select, ← params_where rfl formulas]
  | selectComplex =>
    obtain ⟨source, filter, groups, sorts, _, _, formulas, _, _, rfl⟩ := Statement.selectComplex_eq_ok.mp made
    rw [params_select, ← params_where rfl formulas]
  | count metadata =>
    obtain ⟨filter, groups, formulas, _, whole⟩ := Statement.count_eq_ok.mp made
    rw [← params_where rfl formulas]
    rcases whole with ⟨_, _, source, _, rfl⟩ | ⟨_, table, _, rfl⟩
    · exact params_countResult _
    · split
      · exact params_countRows table filter
      · exact params_countResult _
  | exists? metadata =>
    obtain ⟨filter, table, formulas, _, rfl⟩ := Statement.exists_eq_ok.mp made
    rw [params_select, ← params_where rfl formulas]
  | updateByCondition metadata =>
    obtain ⟨upset, columns, filter, table, given, _, same, _, named, formulas, _, rfl⟩ :=
      Statement.updateByCondition_eq_ok.mp made
    have length : columns.length = upset.values.length := by
      rw [← same, ← (mapM_eq_ok.mp named).length_eq]
    rw [Statement.params_updateWhere table length, Formula.params_allPieces, Formula.bound_ofPredicates formulas, binds,
      Condition.values, given, chosen_append _ _ _ _ (List.length_map _)]
    exact congrArg (· ++ _) (chosen_all upset.values).symm
  | deleteByCondition metadata =>
    obtain ⟨filter, table, _, formulas, _, rfl⟩ := Statement.deleteByCondition_eq_ok.mp made
    rw [params_delete, ← params_where rfl formulas]

end Building

section

variable {database : Option String} {metadata : Metadata} {one two : Statement}

theorem blank_eq {first : List α} {second : List β} (same : first.length = second.length) (value : γ) :
    (first.map fun _ => value) = second.map fun _ => value := by
  rw [List.map_const', List.map_const', same]

theorem rows_shape {records : List Record} {rows : List (List Value)}
    (bound : records.mapM (fun record => metadata.valuesOf record metadata.columns) = .ok rows) :
    rows.map (List.map Value.shape) = records.map fun _ => metadata.columns.map fun _ => .bool true := by
  have each := mapM_eq_ok.mp bound
  clear bound
  induction each with
  | nil => rfl
  | cons row _ ih =>
    have width := (mapM_eq_ok.mp row).length_eq
    exact congrArg₂ List.cons (blank_eq width.symm _) ih

theorem insert_shape_eq {first second : List Record} (same : first.length = second.length)
    (made : Statement.insert database metadata first = .ok one)
    (other : Statement.insert database metadata second = .ok two) : one.shape = two.shape := by
  obtain ⟨rows, table, _, bound, named, rfl⟩ := Statement.insert_eq_ok.mp made
  obtain ⟨others, _, _, rebound, renamed, rfl⟩ := Statement.insert_eq_ok.mp other
  cases named.symm.trans renamed
  simp only [Statement.shape, Command.shape, rows_shape bound, rows_shape rebound, blank_eq same]

theorem updateBatch_shape_eq {first second : List Record} (same : first.length = second.length)
    (made : Statement.updateBatch database metadata first = .ok one)
    (other : Statement.updateBatch database metadata second = .ok two) : one.shape = two.shape := by
  obtain ⟨_, _, _, table, named, rfl⟩ := Statement.updateBatch_eq_ok.mp made
  obtain ⟨_, _, _, _, renamed, rfl⟩ := Statement.updateBatch_eq_ok.mp other
  cases named.symm.trans renamed
  have keys : (first.map metadata.keyIn).map Value.shape = (second.map metadata.keyIn).map Value.shape :=
    blank_eq (by simpa using same) _
  have arms (field : Field) :
      (Statement.armsOf metadata first field).map (Prod.map Value.shape Value.shape) =
        (Statement.armsOf metadata second field).map (Prod.map Value.shape Value.shape) := by
    rw [Statement.armsOf, Statement.armsOf, List.map_map, List.map_map]
    exact blank_eq same (Value.bool true, Value.bool true)
  simp only [Statement.updateOf, Statement.shape, Command.shape, List.map_map, Function.comp_def, arms] at keys ⊢
  rw [keys]

theorem deleteByIds_shape_eq {first second : List Value} (same : first.length = second.length)
    (made : Statement.deleteByIds database metadata first = .ok one)
    (other : Statement.deleteByIds database metadata second = .ok two) : one.shape = two.shape := by
  obtain ⟨table, _, _, named, rfl⟩ := Statement.deleteByIds_eq_ok.mp made
  obtain ⟨_, _, _, renamed, rfl⟩ := Statement.deleteByIds_eq_ok.mp other
  cases named.symm.trans renamed
  have keys : first.map Value.shape = second.map Value.shape := blank_eq same _
  simp only [Statement.shape, Command.shape, Formula.shapes, Formula.shape, keys]

end

/-- One failure, or two statements with one text, each of which binds its own condition's values, from the places that both
bind from. -/
inductive SameText (building : Building) (first second : Condition) : Outcome Statement → Outcome Statement → Prop where
  | failed (failure : Failure) : SameText building first second (.error failure) (.error failure)
  | made {one two : Statement} (texts : ∀ dialect, one.text dialect = two.text dialect)
      (places : building.binds first = building.binds second)
      (before : (building.binds first).length = first.values.length)
      (after : (building.binds second).length = second.values.length)
      (bound : one.params = chosen (building.binds first) first.values)
      (rebound : two.params = chosen (building.binds second) second.values) :
      SameText building first second (.ok one) (.ok two)

theorem sameText_make (database : Option String) (building : Building) {first second : Condition}
    (alike : first.shape = second.shape) :
    SameText building first second (building.make database first) (building.make database second) := by
  have shapes : (building.make database first).map Statement.shape = (building.make database second).map Statement.shape := by
    rw [← Building.make_shape, ← Building.make_shape, alike]
  have places : building.binds first = building.binds second := by
    rw [← Building.binds_shape, alike, Building.binds_shape]
  -- outcomes with one shape fail together
  cases made : building.make database first with
  | error failure =>
    cases other : building.make database second with
    | error cause =>
      rw [made, other] at shapes
      cases shapes
      exact .failed failure
    | ok two =>
      rw [made, other] at shapes
      cases shapes
  | ok one =>
    cases other : building.make database second with
    | error cause =>
      rw [made, other] at shapes
      cases shapes
    | ok two =>
      rw [made, other] at shapes
      have same : one.shape = two.shape := Except.ok.inj shapes
      apply SameText.made (fun dialect => Statement.text_of_shape_eq dialect same) places
      · exact building.length_binds first
      · exact building.length_binds second
      · exact building.params_make made
      · exact building.params_make other

/-- Values never reach the text of a statement: conditions of one shape make statements with one text, and so do batches of
one length. -/
theorem text_holds_no_values (database : Option String) :
    (∀ (building : Building) (first second : Condition), first.shape = second.shape →
      SameText building first second (building.make database first) (building.make database second)) ∧
    ∀ (metadata : Metadata) (one two : Statement),
      (∃ first second : List Record, first.length = second.length ∧
          Statement.insert database metadata first = .ok one ∧ Statement.insert database metadata second = .ok two) ∨
        (∃ first second : List Record, first.length = second.length ∧
          Statement.updateBatch database metadata first = .ok one ∧ Statement.updateBatch database metadata second = .ok two) ∨
        (∃ first second : List Value, first.length = second.length ∧
          Statement.deleteByIds database metadata first = .ok one ∧ Statement.deleteByIds database metadata second = .ok two) →
      ∀ dialect, one.text dialect = two.text dialect := by
  refine ⟨fun building first second alike => sameText_make database building alike, ?_⟩
  intro metadata one two batches dialect
  apply Statement.text_of_shape_eq
  rcases batches with ⟨first, second, same, made, other⟩ | ⟨first, second, same, made, other⟩ | ⟨first, second, same, made, other⟩
  · exact insert_shape_eq same made other
  · exact updateBatch_shape_eq same made other
  · exact deleteByIds_shape_eq same made other

/-- A text that would be SQL is bound like any other value. -/
theorem hostile_change_bound :
    let hostile : Condition :=
      { predicates := [.compare "id" (.versus .eq (.text "0 OR 1 = 1"))]
        upset := some ⟨["appID", "ctime"], [.null, .text "0 WHERE"]⟩ }
    walletChange.shape = hostile.shape ∧
      (∃ one two, Statement.updateByCondition none wallet walletChange = .ok one ∧
        Statement.updateByCondition none wallet hostile = .ok two ∧ one.text .mysql = two.text .mysql ∧
        two.params = [.null, .text "0 WHERE", .text "0 OR 1 = 1"]) ∧
      ∃ one two, Statement.deleteByIds none wallet [.int 1, .int 2] = .ok one ∧
        Statement.deleteByIds none wallet [.text ")", .int 3] = .ok two ∧ one.text .sqlite = two.text .sqlite := by
  intro hostile
  have alike : walletChange.shape = hostile.shape := by
    simp [hostile, walletChange, Condition.shape, Predicate.shapes, Predicate.shape, Test.shape, Upset.shape, Value.shape]
  refine ⟨alike, ?_, ?_⟩
  · have same : SameText (.updateByCondition wallet) walletChange hostile (.ok _) (.ok _) :=
      (text_holds_no_values none).1 (.updateByCondition wallet) walletChange hostile alike
    cases same with
    | made texts _ _ _ _ rebound => exact ⟨_, _, rfl, rfl, texts .mysql, rfl⟩
  · exact ⟨_, _, rfl, rfl, (text_holds_no_values none).2 wallet _ _
      (.inr (.inr ⟨[.int 1, .int 2], [.text ")", .int 3], rfl, rfl, rfl⟩)) .sqlite⟩

end RecordMapper
