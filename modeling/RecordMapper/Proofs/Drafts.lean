import Mathlib.Data.List.Basic
import RecordMapper.Draft

/-! What the methods of a condition declare. Every comparison that they add, at any depth of nested choices, has as many
values as its operator takes, so what they declare is a condition, and every predicate can be declared by them. -/

namespace RecordMapper

/-- How many values a comparison with the operator has to have. A set may have any number, and a null test looks at none. -/
def Comparator.arity? : Comparator → Option Nat
  | .versus _ | .like _ => some 1
  | .between _ => some 2
  | .among _ | .null _ => none

namespace Comparison

def Fits (comparison : Comparison) : Prop :=
  ∀ count, comparison.operator.arity? = some count → comparison.values.length = count

/-- The comparisons that the methods add: one method for each operator. -/
inductive Offered : Comparison → Prop where
  | eq (key : String) (value : Value) : Offered (.eq key value)
  | notEq (key : String) (value : Value) : Offered (.notEq key value)
  | lt (key : String) (value : Value) : Offered (.lt key value)
  | lte (key : String) (value : Value) : Offered (.lte key value)
  | gt (key : String) (value : Value) : Offered (.gt key value)
  | gte (key : String) (value : Value) : Offered (.gte key value)
  | between (key : String) (low high : Value) : Offered (.between key low high)
  | notBetween (key : String) (low high : Value) : Offered (.notBetween key low high)
  | inList (key : String) (values : List Value) : Offered (.inList key values)
  | notInList (key : String) (values : List Value) : Offered (.notInList key values)
  | like (key : String) (pattern : Value) : Offered (.like key pattern)
  | notLike (key : String) (pattern : Value) : Offered (.notLike key pattern)
  | isNull (key : String) : Offered (.isNull key)
  | isNotNull (key : String) : Offered (.isNotNull key)

variable {comparison : Comparison}

theorem Offered.fits (offered : comparison.Offered) : comparison.Fits := by
  intro count takes
  cases offered <;> cases takes <;> rfl

/-- A test is the comparison that it is read from, and no other. -/
theorem test?_eq_some {test : Test} : comparison.test? = some test ↔ test.comparison comparison.key = comparison := by
  obtain ⟨key, operator, values⟩ := comparison
  constructor
  · intro found
    cases operator with
    | among negated => cases found; rfl
    | versus relation | like negated =>
      obtain _ | ⟨value, _ | ⟨second, rest⟩⟩ := values <;> cases found
      rfl
    | between negated =>
      obtain _ | ⟨low, _ | ⟨high, _ | ⟨third, rest⟩⟩⟩ := values <;> cases found
      rfl
    | null negated =>
      cases values <;> cases found
      rfl
  · intro same
    cases same
    cases test <;> rfl

theorem Offered.exists_test (offered : comparison.Offered) : ∃ test, comparison.test? = some test := by
  cases offered <;> exact ⟨_, rfl⟩

theorem Offered.ofTest (key : String) (test : Test) : (test.comparison key).Offered := by
  cases test with
  | versus relation value =>
    cases relation with
    | eq => exact .eq key value
    | notEq => exact .notEq key value
    | lt => exact .lt key value
    | lte => exact .lte key value
    | gt => exact .gt key value
    | gte => exact .gte key value
  | between negated low high =>
    cases negated with
    | false => exact .between key low high
    | true => exact .notBetween key low high
  | among negated values =>
    cases negated with
    | false => exact .inList key values
    | true => exact .notInList key values
  | like negated pattern =>
    cases negated with
    | false => exact .like key pattern
    | true => exact .notLike key pattern
  | null negated =>
    cases negated with
    | false => exact .isNull key
    | true => exact .isNotNull key

end Comparison

namespace Criterion

mutual
/-- The comparisons of a criterion, in the order of their declaration. -/
def comparisons : Criterion → List Comparison
  | .compare comparison => [comparison]
  | .any branches => branchComparisons branches

def listComparisons : List Criterion → List Comparison
  | [] => []
  | criterion :: rest => comparisons criterion ++ listComparisons rest

def branchComparisons : List (List Criterion) → List Comparison
  | [] => []
  | branch :: rest => listComparisons branch ++ branchComparisons rest
end

theorem listComparisons_append (first second : List Criterion) :
    listComparisons (first ++ second) = listComparisons first ++ listComparisons second := by
  induction first with
  | nil => rfl
  | cons criterion rest ih => rw [List.cons_append, listComparisons, listComparisons, ih, List.append_assoc]

theorem branchComparisons_eq_flatMap (branches : List (List Criterion)) :
    branchComparisons branches = branches.flatMap listComparisons := by
  induction branches with
  | nil => rfl
  | cons branch rest ih => rw [branchComparisons, ih, List.flatMap_cons]

end Criterion

namespace Predicate

theorem criteria_append (first second : List Predicate) : criteria (first ++ second) = criteria first ++ criteria second := by
  induction first with
  | nil => rfl
  | cons predicate rest ih => rw [List.cons_append, criteria, criteria, ih, List.cons_append]

theorem branchCriteria_eq_map (branches : List (List Predicate)) : branchCriteria branches = branches.map criteria := by
  induction branches with
  | nil => rfl
  | cons branch rest ih => rw [branchCriteria, ih, List.map_cons]

end Predicate

namespace Draft
open Criterion Predicate

/-- The drafts that the methods make of a bare one. The drafts of a choice are made by them too. -/
inductive Built : Draft → Prop where
  | bare (model : Option String) : Built { settings := { model } }
  | compare {draft comparison} (built : Built draft) (offered : comparison.Offered) : Built (draft.compare comparison)
  | either {draft branches} (built : Built draft) (each : ∀ branch ∈ branches, Built branch) : Built (draft.either branches)
  | set {draft step} (built : Built draft) (setting : step.isSetting = true) : Built (draft.set step)

variable {draft : Draft}

theorem Built.fits (built : draft.Built) : ∀ comparison ∈ listComparisons draft.criteria, comparison.Fits := by
  induction built with
  | bare _ => exact nofun
  | compare _ offered ih =>
    intro comparison member
    rw [Draft.compare, add, listComparisons_append, List.mem_append] at member
    rcases member with earlier | last
    · exact ih comparison earlier
    · obtain rfl := List.mem_singleton.mp last
      exact offered.fits
  | @either draft branches _ _ ih nested =>
    intro comparison member
    rw [Draft.either, add, listComparisons_append, List.mem_append] at member
    rcases member with earlier | last
    · exact ih comparison earlier
    · simp only [listComparisons, comparisons, branchComparisons_eq_flatMap, List.append_nil, List.mem_flatMap,
        List.mem_map] at last
      obtain ⟨_, ⟨branch, inside, rfl⟩, member⟩ := last
      exact nested branch inside comparison member
  | set _ _ ih => exact ih

/-- A condition has the predicates and the settings of a draft. -/
structure Stands (draft : Draft) (condition : Condition) : Prop where
  predicates : Predicate.criteria condition.predicates = draft.criteria
  settings : condition = { draft.settings with predicates := condition.predicates }

variable {condition : Condition}

/-- A method that tests a column adds to a draft what the step for its test adds to a condition. -/
theorem Stands.compare {comparison : Comparison} {test : Test} (stands : draft.Stands condition)
    (found : comparison.test? = some test) :
    (draft.compare comparison).Stands (condition.apply (.test comparison.key test)) := by
  constructor
  · change Predicate.criteria (condition.predicates ++ [_]) = draft.criteria ++ [_]
    rw [criteria_append, stands.predicates, Predicate.criteria, criterion, Comparison.test?_eq_some.mp found]
    rfl
  · conv_lhs => rw [stands.settings]
    rfl

theorem Stands.either {branches : List Draft} {nested : List Condition} (stands : draft.Stands condition)
    (each : List.Forall₂ Stands branches nested) : (draft.either branches).Stands (condition.apply (.either nested)) := by
  have same : (nested.map Condition.predicates).map Predicate.criteria = branches.map Draft.criteria := by
    induction each with
    | nil => rfl
    | cons first _ ih => rw [List.map_cons, List.map_cons, List.map_cons, first.predicates, ih]
  constructor
  · change Predicate.criteria (condition.predicates ++ [_]) = draft.criteria ++ [_]
    rw [criteria_append, stands.predicates, Predicate.criteria, criterion, branchCriteria_eq_map, same]
    rfl
  · conv_lhs => rw [stands.settings]
    rfl

theorem Stands.set {step : Condition.Step} (stands : draft.Stands condition) (setting : step.isSetting = true) :
    (draft.set step).Stands (condition.apply step) := by
  have kept : (condition.apply step).predicates = condition.predicates := by cases step <;> first | rfl | cases setting
  constructor
  · rw [kept, stands.predicates]
    rfl
  · rw [kept]
    conv_lhs => rw [stands.settings]
    cases step <;> first | rfl | cases setting

theorem exists_stands {branches : List Draft} (each : ∀ branch ∈ branches, ∃ condition, Stands branch condition) :
    ∃ nested, List.Forall₂ Stands branches nested := by
  induction branches with
  | nil => exact ⟨[], .nil⟩
  | cons branch rest ih =>
    rw [List.forall_mem_cons] at each
    obtain ⟨condition, first⟩ := each.1
    obtain ⟨nested, others⟩ := ih each.2
    exact ⟨condition :: nested, .cons first others⟩

/-- What the methods declare is a condition that steps build. -/
theorem Built.stands (built : draft.Built) : ∃ model steps, draft.Stands (Condition.build { model } steps) := by
  induction built with
  | bare model => exact ⟨model, [], rfl, rfl⟩
  | @compare draft comparison _ offered ih =>
    obtain ⟨model, steps, stands⟩ := ih
    obtain ⟨test, found⟩ := offered.exists_test
    refine ⟨model, steps ++ [.test comparison.key test], ?_⟩
    rw [Condition.build, List.foldl_append]
    exact stands.compare found
  | @either draft branches _ _ ih nested =>
    obtain ⟨model, steps, stands⟩ := ih
    obtain ⟨conditions, each⟩ := exists_stands fun branch member =>
      (nested branch member).elim fun _ found => found.elim fun _ stands => ⟨_, stands⟩
    refine ⟨model, steps ++ [.either conditions], ?_⟩
    rw [Condition.build, List.foldl_append]
    exact stands.either each
  | @set draft step _ setting ih =>
    obtain ⟨model, steps, stands⟩ := ih
    refine ⟨model, steps ++ [step], ?_⟩
    rw [Condition.build, List.foldl_append]
    exact stands.set setting

mutual
theorem Built.declare : ∀ (predicate : Predicate) {draft : Draft}, draft.Built →
    ∃ more : Draft, more.Built ∧ more.criteria = draft.criteria ++ [predicate.criterion]
  | .compare key test, draft, built => by
    refine ⟨draft.compare (test.comparison key), built.compare (.ofTest key test), ?_⟩
    rw [criterion]
    rfl
  | .any branches, draft, built => by
    obtain ⟨drafts, each, same⟩ := Built.declareBranches branches
    refine ⟨draft.either drafts, .either built each, ?_⟩
    rw [criterion, ← same]
    rfl

theorem Built.declareAll : ∀ (predicates : List Predicate) {draft : Draft}, draft.Built →
    ∃ more : Draft, more.Built ∧ more.criteria = draft.criteria ++ Predicate.criteria predicates
  | [], draft, built => by
    refine ⟨draft, built, ?_⟩
    rw [Predicate.criteria, List.append_nil]
  | predicate :: rest, draft, built => by
    obtain ⟨first, started, head⟩ := Built.declare predicate built
    obtain ⟨more, made, tail⟩ := Built.declareAll rest started
    refine ⟨more, made, ?_⟩
    rw [tail, head, List.append_assoc]
    rfl

theorem Built.declareBranches : ∀ branches : List (List Predicate),
    ∃ drafts : List Draft, (∀ draft ∈ drafts, draft.Built) ∧ drafts.map Draft.criteria = branchCriteria branches
  | [] => ⟨[], List.forall_mem_nil _, rfl⟩
  | branch :: rest => by
    obtain ⟨first, made, head⟩ := Built.declareAll branch (.bare none)
    obtain ⟨drafts, each, tail⟩ := Built.declareBranches rest
    refine ⟨first :: drafts, List.forall_mem_cons.mpr ⟨made, each⟩, ?_⟩
    rw [List.map_cons, head, tail]
    rfl
end

/-- The predicates of conditions are just what the methods declare. -/
theorem exists_built_iff {declared : List Criterion} :
    (∃ draft : Draft, draft.Built ∧ draft.criteria = declared) ↔ ∃ predicates, Predicate.criteria predicates = declared := by
  constructor
  · rintro ⟨draft, built, rfl⟩
    obtain ⟨_, _, stands⟩ := built.stands
    exact ⟨_, stands.predicates⟩
  · rintro ⟨predicates, rfl⟩
    exact Built.declareAll predicates (.bare none)

end Draft

end RecordMapper
