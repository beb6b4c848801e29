import RecordMapper.Proofs.ClauseSpacing
import RecordMapper.Proofs.Outcomes

/-! The formulas of a condition. They can be written, since every key has been checked and every empty set and
choice is gone, and there are none iff no predicate renders. -/

namespace RecordMapper.Clause
open Outcome

theorem splitOn_part {letters : List Char} (parts : ∀ c ∈ letters, Name.isPart c) : letters.splitOn '.' = [letters] := by
  apply List.splitOn_eq_singleton
  intro member
  have part := parts _ member
  simp [show Name.isPart '.' = false by decide] at part

/-- A key is an identifier, or two of them around its only point. -/
theorem splitOn_key {letters : List Char} (valid : Name.isKey letters) :
    ∀ part ∈ letters.splitOn '.', Name.isIdentifier part := by
  have whole : letters.takeWhile Name.isPart ++ letters.dropWhile Name.isPart = letters :=
    List.takeWhile_append_dropWhile
  simp only [Name.isKey, Bool.and_eq_true] at valid
  obtain ⟨before, after⟩ := valid
  have parts := isPart_of_identifier before
  cases left : letters.dropWhile Name.isPart with
  | nil =>
    rw [left, List.append_nil] at whole
    rw [whole] at before parts
    simpa [splitOn_part parts] using before
  | cons c rest =>
    simp only [left, Bool.and_eq_true, decide_eq_true_eq] at after
    obtain ⟨rfl, identifier⟩ := after
    rw [← whole, left, List.splitOn_append_cons_self, splitOn_part parts,
      splitOn_part (isPart_of_identifier identifier)]
    simpa using ⟨before, identifier⟩

theorem legible_ofKey {key : String} (valid : Name.checkKey key = .ok ()) : Legible (.ofKey key) := by
  unfold Name.checkKey at valid
  split at valid
  · cases valid
  · split at valid
    · rename_i letters
      have identifiers := splitOn_key letters
      refine ⟨by simp [ColumnRef.ofKey], fun part member => ?_⟩
      obtain ⟨written, inside, rfl⟩ := List.mem_map.mp member
      simpa using identifiers written inside
    · cases valid

theorem ofPredicate_compare {key : String} {test : Test} {kept : Option Formula} :
    Formula.ofPredicate (.compare key test) = .ok kept ↔
      ∃ formula, Name.checkKey key = .ok () ∧ Formula.ofTest key test = .ok formula ∧ kept = some formula := by
  simp only [Formula.ofPredicate_compare_eq, bind_eq_ok, pure_eq_ok]
  constructor
  · rintro ⟨_, valid, formula, made, rfl⟩
    exact ⟨formula, checkedName_eq_ok.mp valid, made, rfl⟩
  · rintro ⟨formula, valid, made, rfl⟩
    exact ⟨(), checkedName_eq_ok.mpr valid, formula, made, rfl⟩

theorem ofPredicate_any {branches : List (List Predicate)} {kept : Option Formula} :
    Formula.ofPredicate (.any branches) = .ok kept ↔
      ∃ found, Formula.ofBranches branches = .ok found ∧ kept = if found = [] then none else some (.any found) := by
  simp only [Formula.ofPredicate_any_eq, bind_eq_ok]
  constructor
  · rintro ⟨found, made, result⟩
    refine ⟨found, made, ?_⟩
    cases found <;> exact (pure_eq_ok.mp result).symm
  · rintro ⟨found, made, rfl⟩
    refine ⟨found, made, ?_⟩
    cases found <;> rfl

theorem ofPredicates_cons {predicate : Predicate} {rest : List Predicate} {filter : List Formula} :
    Formula.ofPredicates (predicate :: rest) = .ok filter ↔
      ∃ kept others, Formula.ofPredicate predicate = .ok kept ∧ Formula.ofPredicates rest = .ok others ∧
        filter = kept.toList ++ others := by
  simp only [Formula.ofPredicates_cons_eq, bind_eq_ok, pure_eq_ok]
  constructor
  · rintro ⟨kept, first, others, second, rfl⟩
    exact ⟨kept, others, first, second, rfl⟩
  · rintro ⟨kept, others, first, second, rfl⟩
    exact ⟨kept, first, others, second, rfl⟩

theorem ofBranches_cons {branch : List Predicate} {rest : List (List Predicate)} {found : List (List Formula)} :
    Formula.ofBranches (branch :: rest) = .ok found ↔
      ∃ first others, Formula.ofPredicates branch = .ok first ∧ Formula.ofBranches rest = .ok others ∧
        found = if first = [] then others else first :: others := by
  simp only [Formula.ofBranches_cons_eq, bind_eq_ok, pure_eq_ok, List.isEmpty_iff]
  constructor
  · rintro ⟨first, made, others, more, rfl⟩
    exact ⟨first, others, made, more, rfl⟩
  · rintro ⟨first, others, made, more, rfl⟩
    exact ⟨first, made, others, more, rfl⟩

mutual
theorem ofPredicate_renders : ∀ {predicate : Predicate} {kept : Option Formula},
    Formula.ofPredicate predicate = .ok kept → (kept = none ↔ predicate.renders = false)
  | .compare _ _, _, made => by
    obtain ⟨formula, _, _, rfl⟩ := ofPredicate_compare.mp made
    simp [Predicate.renders]
  | .any branches, _, made => by
    obtain ⟨found, inside, rfl⟩ := ofPredicate_any.mp made
    have empty := ofBranches_renders inside
    by_cases none : found = [] <;> simp_all [Predicate.renders]

theorem ofPredicates_renders : ∀ {predicates : List Predicate} {filter : List Formula},
    Formula.ofPredicates predicates = .ok filter → (filter = [] ↔ Predicate.listRenders predicates = false)
  | [], _, made => by
    cases made
    simp [Predicate.listRenders]
  | predicate :: rest, _, made => by
    obtain ⟨kept, others, first, second, rfl⟩ := ofPredicates_cons.mp made
    simp [Predicate.listRenders, ← ofPredicate_renders first, ← ofPredicates_renders second]

theorem ofBranches_renders : ∀ {branches : List (List Predicate)} {found : List (List Formula)},
    Formula.ofBranches branches = .ok found → (found = [] ↔ Predicate.branchesRender branches = false)
  | [], _, made => by
    cases made
    simp [Predicate.branchesRender]
  | branch :: rest, _, made => by
    obtain ⟨first, others, inside, more, rfl⟩ := ofBranches_cons.mp made
    have empty := ofPredicates_renders inside
    have last := ofBranches_renders more
    by_cases none : first = [] <;> simp_all [Predicate.branchesRender]
end

theorem sound_ofTest {key : String} {test : Test} {formula : Formula} (valid : Name.checkKey key = .ok ())
    (made : Formula.ofTest key test = .ok formula) : Sound formula := by
  have legible := legible_ofKey valid
  cases test with
  | versus relation value => cases value <;> cases relation <;> cases made <;> exact legible
  | among negated values =>
    cases values with
    | nil => cases made; trivial
    | cons first rest => cases made; exact ⟨legible, List.cons_ne_nil first rest⟩
  | between _ _ _ | like _ _ | null _ => cases made; exact legible

mutual
theorem sound_ofPredicate : ∀ {predicate : Predicate} {formula : Formula},
    Formula.ofPredicate predicate = .ok (some formula) → Sound formula
  | .compare key test, _, made => by
    obtain ⟨formula, valid, tested, same⟩ := ofPredicate_compare.mp made
    cases same
    exact sound_ofTest valid tested
  | .any branches, _, made => by
    obtain ⟨found, inside, same⟩ := ofPredicate_any.mp made
    by_cases none : found = []
    · simp [none] at same
    · simp only [none, ↓reduceIte, Option.some.injEq] at same
      subst same
      exact ⟨none, sound_ofBranches inside⟩

theorem sound_ofPredicates : ∀ {predicates : List Predicate} {filter : List Formula},
    Formula.ofPredicates predicates = .ok filter → AllSound filter
  | [], _, made => by
    cases made
    trivial
  | predicate :: rest, _, made => by
    obtain ⟨kept, others, first, second, rfl⟩ := ofPredicates_cons.mp made
    cases kept with
    | none => exact sound_ofPredicates second
    | some formula => exact ⟨sound_ofPredicate first, sound_ofPredicates second⟩

theorem sound_ofBranches : ∀ {branches : List (List Predicate)} {found : List (List Formula)},
    Formula.ofBranches branches = .ok found → SoundBranches found
  | [], _, made => by
    cases made
    trivial
  | branch :: rest, _, made => by
    obtain ⟨first, others, inside, more, rfl⟩ := ofBranches_cons.mp made
    by_cases none : first = []
    · simpa [none] using sound_ofBranches more
    · simp only [none, ↓reduceIte]
      exact ⟨⟨none, sound_ofPredicates inside⟩, sound_ofBranches more⟩
end

end RecordMapper.Clause
