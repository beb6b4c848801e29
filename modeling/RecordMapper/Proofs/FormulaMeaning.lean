import RecordMapper.Proofs.ClauseReading
import RecordMapper.Proofs.ConditionFormulas
import RecordMapper.Relational.Filter

/-! What formulas and predicates mean for a row of which nothing is known but the outcome of each test. Brackets
that group what already stands together change nothing, and a condition's formulas mean what its predicates do. -/

namespace RecordMapper.Clause
open Outcome

/-- The outcome of each test, which is told with its rank among the tests of a clause. -/
abbrev Atoms := Nat → ColumnRef → Test → Truth

/-- The outcome of each test of a row. -/
abbrev RowView := ColumnRef → Test → Truth

mutual
def tests : Formula → Nat
  | .constant _ => 0
  | .any branches => anyTests branches
  | _ => 1

def anyTests : List (List Formula) → Nat
  | [] => 0
  | branch :: rest => allTests branch + anyTests rest

def allTests : List Formula → Nat
  | [] => 0
  | formula :: rest => tests formula + allTests rest
end

mutual
/-- The truth of a formula whose tests are numbered from `rank`. -/
def value (atoms : Atoms) (rank : Nat) : Formula → Truth
  | .versus column relation against => atoms rank column (.versus relation against)
  | .between column negated low high => atoms rank column (.between negated low high)
  | .among column negated values => atoms rank column (.among negated values)
  | .like column negated pattern => atoms rank column (.like negated pattern)
  | .null column negated => atoms rank column (.null negated)
  | .constant holds => .ofBool holds
  | .any branches => anyValue atoms rank branches

def anyValue (atoms : Atoms) (rank : Nat) : List (List Formula) → Truth
  | [] => .no
  | branch :: rest => (allValue atoms rank branch).or (anyValue atoms (rank + allTests branch) rest)

def allValue (atoms : Atoms) (rank : Nat) : List Formula → Truth
  | [] => .yes
  | formula :: rest => (value atoms rank formula).and (allValue atoms (rank + tests formula) rest)
end

/-- What a test asks of a row. Equality with NULL asks for NULL, and nothing is among no values. -/
def testValue (row : RowView) (column : ColumnRef) : Test → Truth
  | .versus .eq .null => row column (.null false)
  | .versus .notEq .null => row column (.null true)
  | .among negated [] => .ofBool negated
  | test => row column test

mutual
/-- The truth of a predicate: a choice between the branches that render. -/
def predicateValue (row : RowView) : Predicate → Truth
  | .compare key test => testValue row (.ofKey key) test
  | .any branches => choiceValue row branches

def predicatesValue (row : RowView) : List Predicate → Truth
  | [] => .yes
  | predicate :: rest =>
    if predicate.renders then (predicateValue row predicate).and (predicatesValue row rest)
    else predicatesValue row rest

def choiceValue (row : RowView) : List (List Predicate) → Truth
  | [] => .no
  | branch :: rest =>
    if Predicate.listRenders branch then (predicatesValue row branch).or (choiceValue row rest)
    else choiceValue row rest
end

theorem or_no (truth : Truth) : truth.or .no = truth := by
  cases truth <;> rfl

theorem and_yes (truth : Truth) : truth.and .yes = truth := by
  cases truth <;> rfl

mutual
theorem tests_grouped : ∀ formula : Formula, tests (grouped formula) = tests formula
  | .any branches => by simp only [grouped, tests, tests_groupedBranches branches]
  | .versus .. | .between .. | .among .. | .like .. | .null .. | .constant _ => rfl

theorem tests_groupedBranches : ∀ branches : List (List Formula), anyTests (groupedBranches branches) = anyTests branches
  | [] => rfl
  | branch :: rest => by
    simp only [groupedBranches, anyTests, tests_groupedBranch branch, tests_groupedBranches rest]

theorem tests_groupedBranch : ∀ branch : List Formula, allTests (groupedBranch branch) = allTests branch
  | [] => rfl
  | [formula] => by simp only [groupedBranch, allTests, tests_grouped formula]
  | formula :: second :: more => by
    have others := tests_groupedAll (second :: more)
    simp only [groupedBranch, allTests, tests, anyTests, tests_grouped formula, others, Nat.add_zero]

theorem tests_groupedAll : ∀ formulas : List Formula, allTests (groupedAll formulas) = allTests formulas
  | [] => rfl
  | formula :: rest => by simp only [groupedAll, allTests, tests_grouped formula, tests_groupedAll rest]
end

mutual
theorem value_grouped (atoms : Atoms) : ∀ (formula : Formula) (rank : Nat),
    value atoms rank (grouped formula) = value atoms rank formula
  | .any branches, rank => by simp only [grouped, value, value_groupedBranches atoms branches rank]
  | .versus .., _ | .between .., _ | .among .., _ | .like .., _ | .null .., _ | .constant _, _ => rfl

theorem value_groupedBranches (atoms : Atoms) : ∀ (branches : List (List Formula)) (rank : Nat),
    anyValue atoms rank (groupedBranches branches) = anyValue atoms rank branches
  | [], _ => rfl
  | branch :: rest, rank => by
    simp only [groupedBranches, anyValue, tests_groupedBranch branch, value_groupedBranch atoms branch rank,
      value_groupedBranches atoms rest]

theorem value_groupedBranch (atoms : Atoms) : ∀ (branch : List Formula) (rank : Nat),
    allValue atoms rank (groupedBranch branch) = allValue atoms rank branch
  | [], _ => rfl
  | [formula], rank => by simp only [groupedBranch, allValue, value_grouped atoms formula rank]
  | formula :: second :: more, rank => by
    have others := value_groupedAll atoms (second :: more) (rank + tests formula)
    simp only [groupedBranch, allValue, value, anyValue, value_grouped atoms formula rank, tests_grouped formula,
      or_no, and_yes] at others ⊢
    rw [others]

theorem value_groupedAll (atoms : Atoms) : ∀ (formulas : List Formula) (rank : Nat),
    allValue atoms rank (groupedAll formulas) = allValue atoms rank formulas
  | [], _ => rfl
  | formula :: rest, rank => by
    simp only [groupedAll, allValue, value_grouped atoms formula rank, tests_grouped formula,
      value_groupedAll atoms rest]
end

theorem value_read (atoms : Atoms) (rank : Nat) (filter : List Formula) :
    anyValue atoms rank [groupedAll filter] = allValue atoms rank filter := by
  simp only [anyValue, or_no, value_groupedAll]

theorem value_ofTest (row : RowView) (rank : Nat) {key : String} {test : Test} {formula : Formula}
    (made : Formula.ofTest key test = .ok formula) :
    value (fun _ => row) rank formula = testValue row (.ofKey key) test := by
  cases test with
  | versus relation against => cases against <;> cases relation <;> cases made <;> rfl
  | among negated values => cases values <;> cases made <;> rfl
  | between _ _ _ | like _ _ | null _ => cases made; rfl

mutual
theorem value_ofPredicate (row : RowView) : ∀ {predicate : Predicate} {formula : Formula},
    Formula.ofPredicate predicate = .ok (some formula) → ∀ rank,
      value (fun _ => row) rank formula = predicateValue row predicate
  | .compare key test, _, made, rank => by
    obtain ⟨formula, _, tested, same⟩ := ofPredicate_compare.mp made
    cases same
    simpa only [predicateValue] using value_ofTest row rank tested
  | .any branches, _, made, rank => by
    obtain ⟨found, inside, same⟩ := ofPredicate_any.mp made
    by_cases none : found = []
    · simp [none] at same
    · simp only [none, ↓reduceIte, Option.some.injEq] at same
      subst same
      simpa only [value, predicateValue] using value_ofBranches row inside rank

theorem value_ofPredicates (row : RowView) : ∀ {predicates : List Predicate} {filter : List Formula},
    Formula.ofPredicates predicates = .ok filter → ∀ rank,
      allValue (fun _ => row) rank filter = predicatesValue row predicates
  | [], _, made, _ => by
    cases made
    rfl
  | predicate :: rest, _, made, rank => by
    obtain ⟨kept, others, first, second, rfl⟩ := ofPredicates_cons.mp made
    have renders := ofPredicate_renders first
    cases kept with
    | none =>
      have dropped : predicate.renders = false := renders.mp rfl
      simpa [predicatesValue, dropped] using value_ofPredicates row second rank
    | some formula =>
      have rendered : predicate.renders = true := by simpa using renders
      simp [predicatesValue, rendered, allValue, value_ofPredicate row first rank, value_ofPredicates row second]

theorem value_ofBranches (row : RowView) : ∀ {branches : List (List Predicate)} {found : List (List Formula)},
    Formula.ofBranches branches = .ok found → ∀ rank,
      anyValue (fun _ => row) rank found = choiceValue row branches
  | [], _, made, _ => by
    cases made
    rfl
  | branch :: rest, _, made, rank => by
    obtain ⟨first, others, inside, more, rfl⟩ := ofBranches_cons.mp made
    have renders := ofPredicates_renders inside
    by_cases none : first = []
    · have dropped : Predicate.listRenders branch = false := renders.mp none
      simpa [choiceValue, none, dropped] using value_ofBranches row more rank
    · have rendered : Predicate.listRenders branch = true := by simpa [none] using renders
      simp [choiceValue, none, rendered, anyValue, value_ofPredicates row inside rank, value_ofBranches row more]
end

/-- What the store finds when it tests a column. -/
def storeView (env : ColumnRef → ColumnReading) : RowView := fun column test =>
  let reading := env column
  match test with
  | .versus relation against => reading.likeness.versus relation reading.datum (.ofValue against)
  | .between negated low high =>
    (reading.likeness.between reading.datum (.ofValue low) (.ofValue high)).negatedIf negated
  | .among negated values => (reading.likeness.among reading.datum (values.map .ofValue)).negatedIf negated
  | .like negated pattern => (reading.datum.alike (.ofValue pattern)).negatedIf negated
  | .null negated => .ofBool (reading.datum.isNull != negated)

mutual
/-- A row of the store is one of the rows of which only the tests are known. -/
theorem truth_eq_value (env : ColumnRef → ColumnReading) : ∀ (formula : Formula) (rank : Nat),
    formula.truth env = value (fun _ => storeView env) rank formula
  | .versus .., _ | .between .., _ | .among .., _ | .like .., _ | .null .., _ | .constant _, _ => rfl
  | .any branches, rank => anyTruth_eq_value env branches rank

theorem anyTruth_eq_value (env : ColumnRef → ColumnReading) : ∀ (branches : List (List Formula)) (rank : Nat),
    Formula.anyTruth env branches = anyValue (fun _ => storeView env) rank branches
  | [], _ => rfl
  | branch :: rest, rank => by
    rw [Formula.anyTruth, anyValue, allTruth_eq_value env branch rank, ← anyTruth_eq_value env rest]

theorem allTruth_eq_value (env : ColumnRef → ColumnReading) : ∀ (formulas : List Formula) (rank : Nat),
    Formula.allTruth env formulas = allValue (fun _ => storeView env) rank formulas
  | [], _ => rfl
  | formula :: rest, rank => by
    rw [Formula.allTruth, allValue, truth_eq_value env formula rank, ← allTruth_eq_value env rest]
end

end RecordMapper.Clause
