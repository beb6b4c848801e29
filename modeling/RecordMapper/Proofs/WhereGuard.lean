import RecordMapper.Proofs.StatementOutcomes
import RecordMapper.Proofs.WhereText
import RecordMapper.Sql.Writes

/-! The test that keeps a statement from touching every row by mistake. It refuses a condition exactly when the
clause is empty or holds whatever its tests yield. Where tests are independent of each other, a clause that can
fail at all fails if all of them do, since nothing in it is negated. -/

namespace RecordMapper.Clause
open Outcome

/-- Every test of a clause as an atom of its own. -/
def independent (truths : Nat → Truth) : Atoms := fun rank _ _ => truths rank

def allFail : Atoms := independent fun _ => .no

theorem or_yes (truth : Truth) : truth.or .yes = .yes := by
  cases truth <;> rfl

theorem and_no (truth : Truth) : truth.and .no = .no := by
  cases truth <;> rfl

theorem renders_of_restricts {predicate : Predicate} (restricts : predicate.restricts = true) :
    predicate.renders = true := by
  cases predicate with
  | compare key test => rfl
  | any branches =>
    simp only [Predicate.restricts, Bool.and_eq_true] at restricts
    exact restricts.1

theorem fails_ofTest {key : String} {test : Test} {formula : Formula} (restricts : test.isVacuous = false)
    (made : Formula.ofTest key test = .ok formula) (rank : Nat) : value allFail rank formula = .no := by
  cases test with
  | versus relation against => cases against <;> cases relation <;> cases made <;> rfl
  | among negated values =>
    cases values with
    | nil =>
      cases negated with
      | false => cases made; rfl
      | true => cases restricts
    | cons first rest => cases made; rfl
  | between _ _ _ | like _ _ | null _ => cases made; rfl

mutual
/-- A predicate that can leave rows out fails with its tests. -/
theorem fails_ofPredicate : ∀ {predicate : Predicate} {formula : Formula}, predicate.restricts = true →
    Formula.ofPredicate predicate = .ok (some formula) → ∀ rank, value allFail rank formula = .no
  | .compare key test, _, restricts, made, rank => by
    obtain ⟨formula, _, tested, same⟩ := ofPredicate_compare.mp made
    cases same
    exact fails_ofTest (by simpa [Predicate.restricts] using restricts) tested rank
  | .any branches, _, restricts, made, rank => by
    obtain ⟨found, inside, same⟩ := ofPredicate_any.mp made
    simp only [Predicate.restricts, Bool.and_eq_true] at restricts
    by_cases none : found = []
    · simp [none] at same
    · simp only [none, ↓reduceIte, Option.some.injEq] at same
      subst same
      exact fails_ofBranches restricts.2 inside rank

theorem fails_ofPredicates : ∀ {predicates : List Predicate} {filter : List Formula},
    Predicate.listRestricts predicates = true → Formula.ofPredicates predicates = .ok filter →
      ∀ rank, allValue allFail rank filter = .no
  | predicate :: rest, _, restricts, made, rank => by
    obtain ⟨kept, others, first, second, rfl⟩ := ofPredicates_cons.mp made
    simp only [Predicate.listRestricts, Bool.or_eq_true] at restricts
    cases kept with
    | none =>
      have dropped : predicate.renders = false := (ofPredicate_renders first).mp rfl
      rcases restricts with here | later
      · simp [renders_of_restricts here] at dropped
      · exact fails_ofPredicates later second rank
    | some formula =>
      rcases restricts with here | later
      · exact congrArg (Truth.and · _) (fails_ofPredicate here first rank)
      · have fails := fails_ofPredicates later second (rank + tests formula)
        simp only [Option.toList_some, List.singleton_append, allValue, fails, and_no]

theorem fails_ofBranches : ∀ {branches : List (List Predicate)} {found : List (List Formula)},
    Predicate.branchesRestrict branches = true → Formula.ofBranches branches = .ok found →
      ∀ rank, anyValue allFail rank found = .no
  | [], _, _, made, _ => by
    cases made
    rfl
  | branch :: rest, _, restricts, made, rank => by
    obtain ⟨first, others, inside, more, rfl⟩ := ofBranches_cons.mp made
    simp only [Predicate.branchesRestrict, Bool.and_eq_true, Bool.or_eq_true, Bool.not_eq_true'] at restricts
    have renders := ofPredicates_renders inside
    by_cases none : first = []
    · simpa [none] using fails_ofBranches restricts.2 more rank
    · have here := restricts.1.resolve_left (mt renders.mpr none)
      simp only [none, ↓reduceIte, anyValue, fails_ofPredicates here inside rank, or_no,
        fails_ofBranches restricts.2 more]
end

mutual
/-- A predicate that leaves no row out holds whatever its tests yield. -/
theorem holds_ofPredicate (atoms : Atoms) : ∀ {predicate : Predicate} {formula : Formula},
    predicate.restricts = false → Formula.ofPredicate predicate = .ok (some formula) →
      ∀ rank, value atoms rank formula = .yes
  | .compare key test, _, free, made, rank => by
    obtain ⟨formula, _, tested, same⟩ := ofPredicate_compare.mp made
    cases same
    have vacuous : test.isVacuous = true := by simpa [Predicate.restricts] using free
    unfold Test.isVacuous at vacuous
    split at vacuous
    · cases tested; rfl
    · cases vacuous
  | .any branches, _, free, made, rank => by
    have renders := ofPredicate_renders made
    obtain ⟨found, inside, same⟩ := ofPredicate_any.mp made
    by_cases none : found = []
    · simp [none] at same
    · simp only [none, ↓reduceIte, Option.some.injEq] at same
      subst same
      have rendered : Predicate.branchesRender branches = true := by simpa [Predicate.renders] using renders
      exact holds_ofBranches atoms (by simpa [Predicate.restricts, rendered] using free) inside rank

theorem holds_ofPredicates (atoms : Atoms) : ∀ {predicates : List Predicate} {filter : List Formula},
    Predicate.listRestricts predicates = false → Formula.ofPredicates predicates = .ok filter →
      ∀ rank, allValue atoms rank filter = .yes
  | [], _, _, made, _ => by
    cases made
    rfl
  | predicate :: rest, _, free, made, rank => by
    obtain ⟨kept, others, first, second, rfl⟩ := ofPredicates_cons.mp made
    simp only [Predicate.listRestricts, Bool.or_eq_false_iff] at free
    cases kept with
    | none => exact holds_ofPredicates atoms free.2 second rank
    | some formula =>
      have here := holds_ofPredicate atoms free.1 first rank
      have later := holds_ofPredicates atoms free.2 second (rank + tests formula)
      simp only [Option.toList_some, List.singleton_append, allValue, here, later, and_yes]

theorem holds_ofBranches (atoms : Atoms) : ∀ {branches : List (List Predicate)} {found : List (List Formula)},
    Predicate.branchesRestrict branches = false → Formula.ofBranches branches = .ok found →
      ∀ rank, anyValue atoms rank found = .yes
  | branch :: rest, _, free, made, rank => by
    obtain ⟨first, others, inside, more, rfl⟩ := ofBranches_cons.mp made
    simp only [Predicate.branchesRestrict, Bool.and_eq_false_iff, Bool.or_eq_false_iff, Bool.not_eq_false'] at free
    have renders := ofPredicates_renders inside
    by_cases none : first = []
    · have later : Predicate.branchesRestrict rest = false := by
        simpa [renders.mp none] using free
      simpa [none] using holds_ofBranches atoms later more rank
    · simp only [none, ↓reduceIte, anyValue]
      rcases free with ⟨_, here⟩ | later
      · exact congrArg (Truth.or · _) (holds_ofPredicates atoms here inside rank)
      · rw [holds_ofBranches atoms later more, or_yes]
end

theorem restricts_iff_can_fail {predicates : List Predicate} {filter : List Formula}
    (made : Formula.ofPredicates predicates = .ok filter) :
    Predicate.listRestricts predicates = false ↔ ∀ truths, allValue (independent truths) 0 filter = .yes := by
  constructor
  · intro free truths
    exact holds_ofPredicates (independent truths) free made 0
  · intro holds
    cases restricts : Predicate.listRestricts predicates with
    | false => rfl
    | true =>
      have fails := fails_ofPredicates restricts made 0
      have same := fails.symm.trans (holds fun _ => .no)
      cases same

theorem texts_append (dialect : Dialect) (first second : List Piece) (index : Nat) :
    Piece.texts dialect index (first ++ second) =
      Piece.texts dialect index first ++ Piece.texts dialect (index + (Piece.params first).length) second := by
  induction first generalizing index with
  | nil => rfl
  | cons piece rest ih =>
    cases piece with
    | slot bound =>
      have length : (Piece.params (.slot bound :: rest)).length = (Piece.params rest).length + 1 := rfl
      simp only [length, List.cons_append, Piece.texts, ih, Piece.value?, Option.isSome_some, ↓reduceIte, Nat.add_assoc,
        Nat.add_comm 1]
    | fixed _ | name _ | raw _ | type _ _ | limit _ => exact congrArg (List.cons _) (ih index)

theorem join_append (dialect : Dialect) {first : List Piece} (unbound : Piece.params first = []) (second : List Piece) :
    Piece.join dialect (first ++ second) = Piece.join dialect first ++ Piece.join dialect second := by
  simp [Piece.join, texts_append, unbound, String.join_append]

theorem join_fixed (dialect : Dialect) (text : String) (rest : List Piece) :
    Piece.join dialect (.fixed text :: rest) = text ++ Piece.join dialect rest := String.join_cons

/-- A statement whose parameters are numbered in one go. -/
theorem text_of_section (dialect : Dialect) {statement : Statement} {pieces : List Piece}
    (whole : statement.sections = [pieces]) : statement.text dialect = Piece.join dialect pieces := by
  simp [Statement.text, whole]

theorem join_wherePieces (dialect : Dialect) {filter : List Formula} (filled : filter ≠ []) :
    Piece.join dialect (Formula.wherePieces filter) = " WHERE " ++ Piece.join dialect (Formula.allPieces filter) := by
  have some_ : filter.isEmpty = false := by simpa using filled
  rw [Formula.wherePieces, some_]
  exact join_fixed dialect _ _

/-- A command for the rows that a filter leaves. -/
inductive Filtered (filter : List Formula) : Command → Prop where
  | update (table : TableRef) (columns : List (String × Value)) : Filtered filter (.updateWhere table columns filter)
  | delete (table : TableRef) : Filtered filter (.delete table filter)

theorem params_table (table : TableRef) : Piece.params table.pieces = [] := by
  cases table with
  | mk database name => cases database <;> rfl

/-- The pieces of a SET list, with what comes before it. -/
def settingPieces (table : TableRef) (columns : List (String × Value)) : List Piece :=
  .fixed "UPDATE " :: (table.pieces ++ .fixed " SET " ::
    Piece.separated ", " (columns.map fun (column, value) => [.name column, .fixed " = ", .slot value]))

theorem text_filtered (dialect : Dialect) {filter : List Formula} (filled : filter ≠ []) {command : Command}
    (filtered : Filtered filter command) :
    ∃ opening, Statement.text dialect ⟨command, []⟩ =
      opening ++ " WHERE " ++ Piece.join dialect (Formula.allPieces filter) := by
  cases filtered with
  | update table columns =>
    refine ⟨Piece.join dialect (settingPieces table columns), ?_⟩
    simp [Statement.text, Statement.sections, Command.sections, settingPieces, join_wherePieces dialect filled,
      String.append_assoc]
  | delete table =>
    have unbound : Piece.params (.fixed "DELETE FROM " :: table.pieces) = [] := params_table table
    have split := join_append dialect unbound (Formula.wherePieces filter)
    refine ⟨Piece.join dialect (.fixed "DELETE FROM " :: table.pieces), ?_⟩
    rw [join_wherePieces dialect filled, ← String.append_assoc] at split
    exact (text_of_section dialect rfl).trans split

theorem updateByCondition_filtered {database : Option String} {metadata : Metadata} {condition : Condition}
    {statement : Statement} (made : Statement.updateByCondition database metadata condition = .ok statement) :
    condition.restrictsRows = true ∧ ∃ filter command, condition.formulas = .ok filter ∧ Filtered filter command ∧
      statement = ⟨command, []⟩ := by
  obtain ⟨upset, columns, filter, table, _, _, _, restricts, _, formulas, _, rfl⟩ :=
    Statement.updateByCondition_eq_ok.mp made
  exact ⟨restricts, filter, _, formulas, .update table _, rfl⟩

theorem deleteByCondition_filtered {database : Option String} {metadata : Metadata} {condition : Condition}
    {statement : Statement} (made : Statement.deleteByCondition database metadata condition = .ok statement) :
    condition.restrictsRows = true ∧ ∃ filter command, condition.formulas = .ok filter ∧ Filtered filter command ∧
      statement = ⟨command, []⟩ := by
  obtain ⟨filter, table, restricts, formulas, _, rfl⟩ := Statement.deleteByCondition_eq_ok.mp made
  exact ⟨restricts, filter, _, formulas, .delete table, rfl⟩

/-- The guard in front of updates and deletes by condition is exact. A clause is empty iff no predicate renders,
and the guard refuses a condition iff the clause is empty or holds whatever its comparisons yield, each on its own;
that is so for the formulas written, and for what is read from the text in a dialect that can be read back. What
the guard lets through ends with a WHERE clause that can fail. -/
theorem where_guard_exact (dialect : Dialect) (condition : Condition) :
    (∀ clause params, whereClause dialect condition = .ok (clause, params) →
      (clause = "" ↔ condition.hasPredicates = false) ∧
      (∃ filter, condition.formulas = .ok filter ∧
        (condition.restrictsRows = false ↔ clause = "" ∨ ∀ truths, allValue (independent truths) 0 filter = .yes)) ∧
      ∀ known : Known, known.dialect = dialect → clause ≠ "" → ∃ branches,
        read? known params clause = some branches ∧
          (condition.restrictsRows = false ↔ ∀ truths, anyValue (independent truths) 0 branches = .yes)) ∧
    ∀ database metadata statement,
      Statement.updateByCondition database metadata condition = .ok statement ∨
        Statement.deleteByCondition database metadata condition = .ok statement →
      ∃ filter opening clause params, Filtered filter statement.command ∧
        whereClause dialect condition = .ok (clause, params) ∧ clause ≠ "" ∧
        statement.text dialect = opening ++ " WHERE " ++ clause ∧
        (∃ truths, allValue (independent truths) 0 filter ≠ .yes) ∧
        ∀ known : Known, known.dialect = dialect → ∃ branches, read? known params clause = some branches ∧
          ∃ truths, anyValue (independent truths) 0 branches ≠ .yes := by
  refine ⟨?_, ?_⟩
  · intro clause params built
    obtain ⟨filter, made, rfl, rfl⟩ := whereClause_eq_ok.mp built
    have exact_ : condition.restrictsRows = false ↔ ∀ truths, allValue (independent truths) 0 filter = .yes :=
      restricts_iff_can_fail made
    refine ⟨(join_allPieces_eq_empty dialect filter).trans (ofPredicates_renders made), ⟨filter, made, ?_⟩, ?_⟩
    · refine exact_.trans ⟨.inr, fun refused truths => ?_⟩
      rcases refused with empty | holds
      · obtain rfl := (join_allPieces_eq_empty dialect filter).mp empty
        rfl
      · exact holds truths
    · rintro known rfl visible
      have filled : filter ≠ [] := mt (join_allPieces_eq_empty _ filter).mpr visible
      refine ⟨_, read_clause known filled (sound_ofPredicates made), ?_⟩
      simpa only [value_read] using exact_
  · intro database metadata statement made
    obtain ⟨restricts, filter, command, formulas, filtered, rfl⟩ :=
      made.elim updateByCondition_filtered deleteByCondition_filtered
    have fails : allValue allFail 0 filter = .no := fails_ofPredicates restricts formulas 0
    have falsified : ∃ truths, allValue (independent truths) 0 filter ≠ .yes := by
      refine ⟨fun _ => .no, fun holds => ?_⟩
      have same := fails.symm.trans holds
      cases same
    have filled : filter ≠ [] := by
      rintro rfl
      cases fails
    obtain ⟨opening, text⟩ := text_filtered dialect filled filtered
    refine ⟨filter, opening, _, _, filtered, whereClause_eq_ok.mpr ⟨filter, formulas, rfl, rfl⟩,
      mt (join_allPieces_eq_empty dialect filter).mp filled, text, falsified, ?_⟩
    rintro known rfl
    refine ⟨_, read_clause known filled (sound_ofPredicates formulas), ?_⟩
    simpa only [value_read] using falsified

/-- A choice with an empty set to be outside of holds for every row. Without that set it does not, and deletes. -/
theorem choice_guarded :
    (∃ branches, read? .sqlite [.int 1] "(\"a\" = ? OR 1 = 1)" = some branches ∧
      ∀ truths, anyValue (independent truths) 0 branches = .yes) ∧
    ∃ statement filter truths,
      Statement.deleteByCondition none ⟨"Item", "items", [], "id", .int, false, []⟩
        { predicates := [.any [[.compare "a" (.versus .eq (.int 1))], [.any []]]] } = .ok statement ∧
      Filtered filter statement.command ∧ allValue (independent truths) 0 filter ≠ .yes := by
  refine ⟨?_, ?_⟩
  · have guarded := (where_guard_exact .sqlite
      { predicates := [.any [[.compare "a" (.versus .eq (.int 1))], [.any []], [.compare "b" (.among true [])]]] }).1 _ _ rfl
    obtain ⟨branches, read, same⟩ := guarded.2.2 .sqlite rfl (by decide)
    exact ⟨branches, read, same.mp rfl⟩
  · have guarded := (where_guard_exact .sqlite
      { predicates := [.any [[.compare "a" (.versus .eq (.int 1))], [.any []]]] }).2
      none ⟨"Item", "items", [], "id", .int, false, []⟩ _ (.inr rfl)
    obtain ⟨filter, _, _, _, filtered, _, _, _, ⟨truths, fails⟩, _⟩ := guarded
    exact ⟨_, filter, truths, rfl, filtered, fails⟩

end RecordMapper.Clause
