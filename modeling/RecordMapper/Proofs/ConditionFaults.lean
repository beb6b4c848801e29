import RecordMapper.Proofs.Drafts
import RecordMapper.Proofs.WhereText

/-! Why a condition cannot be written. Its comparisons are checked in the order of their declaration, those of dropped
branches too, and the first that is refused is reported. A comparison may be refused for its key, for an order with NULL and
for the number of its values; what the methods declare is never refused for the last. -/

namespace RecordMapper
namespace Comparison

/-- What is wrong with a comparison that has as many values as its operator takes. Its key is looked at first. -/
inductive Refused : Comparison → Failure → Prop where
  | badKey {comparison fault} (refused : Name.checkKey comparison.key = .error fault) :
      Refused comparison (.validation (.badName fault))
  | orderedNull {key relation} (valid : Name.checkKey key = .ok ()) (orders : relation ∈ [.lt, .lte, .gt, .gte]) :
      Refused ⟨key, .versus relation, [.null]⟩ (.validation (.orderedNull relation.title key))

variable {comparison : Comparison} {failure : Failure}

theorem exists_refused : (∃ failure, comparison.Refused failure) ↔
    Name.checkKey comparison.key ≠ .ok () ∨
      ∃ relation ∈ [.lt, .lte, .gt, .gte], comparison.operator = .versus relation ∧ comparison.values = [.null] := by
  constructor
  · rintro ⟨_, refused | ⟨_, orders⟩⟩
    · left
      rw [refused]
      exact nofun
    · exact .inr ⟨_, orders, rfl, rfl⟩
  · intro wrong
    cases checked : Name.checkKey comparison.key with
    | error fault => exact ⟨_, .badKey checked⟩
    | ok _ =>
      obtain ⟨relation, orders, versus, null⟩ := wrong.resolve_left (not_not_intro checked)
      obtain ⟨key, operator, values⟩ := comparison
      cases versus
      cases null
      exact ⟨_, .orderedNull checked orders⟩

/-- A comparison is refused for the number of its values exactly if its operator takes another number. -/
theorem ofComparison_eq_miscount {count : Nat} :
    Formula.ofComparison comparison = .error (comparison.miscount count) ↔
      comparison.operator.arity? = some count ∧ comparison.values.length ≠ count := by
  obtain ⟨key, operator, values⟩ := comparison
  cases operator with
  | versus relation =>
    obtain _ | ⟨value, _ | ⟨second, rest⟩⟩ := values
    case cons.nil => cases value <;> cases relation <;> simp [Formula.ofComparison, miscount, Comparator.arity?]
    all_goals
      simp [Formula.ofComparison, miscount, Comparator.arity?]
      omega
  | between negated =>
    obtain _ | ⟨low, _ | ⟨high, _ | ⟨third, rest⟩⟩⟩ := values
    case cons.cons.nil => simp [Formula.ofComparison, Comparator.arity?]
    all_goals
      simp [Formula.ofComparison, miscount, Comparator.arity?]
      omega
  | like negated =>
    obtain _ | ⟨pattern, _ | ⟨second, rest⟩⟩ := values
    case cons.nil => simp [Formula.ofComparison, Comparator.arity?]
    all_goals
      simp [Formula.ofComparison, miscount, Comparator.arity?]
      omega
  | among negated => cases values <;> simp [Formula.ofComparison, Comparator.arity?]
  | null negated => simp [Formula.ofComparison, Comparator.arity?]

example : Formula.ofComparison ⟨"a", .between false, [.int 1]⟩ = .error (.validation (.wrongNumber "Between" "a" 2)) := rfl

end Comparison

namespace Clause
open Criterion

def failure? : Outcome α → Option Failure
  | .ok _ => none
  | .error failure => some failure

theorem failure?_eq_some {result : Outcome α} {failure : Failure} :
    failure? result = some failure ↔ result = .error failure := by
  cases result <;> simp [failure?]

theorem failure?_pair (first : Outcome α) (second : Outcome β) (combine : α → β → γ) :
    failure? (do
      let a ← first
      let b ← second
      return combine a b) = (failure? first).or (failure? second) := by
  cases first with
  | error failure => rfl
  | ok a => cases second <;> rfl

/-- What a comparison is refused for. -/
def fault? (comparison : Comparison) : Option Failure :=
  match Name.checkKey comparison.key with
  | .error fault => some (.validation (.badName fault))
  | .ok () => failure? (Formula.ofComparison comparison)

theorem fault?_eq_some {comparison : Comparison} (fits : comparison.Fits) {failure : Failure} :
    fault? comparison = some failure ↔ comparison.Refused failure := by
  constructor
  · intro found
    unfold fault? at found
    split at found
    next fault refused =>
      cases found
      exact .badKey refused
    next valid =>
      rw [failure?_eq_some] at found
      obtain ⟨key, operator, values⟩ := comparison
      cases operator with
      | versus relation =>
        obtain ⟨value, rfl⟩ := List.length_eq_one_iff.mp (fits 1 rfl)
        cases value <;> cases relation <;> cases found <;> exact .orderedNull valid (by decide)
      | between negated =>
        obtain ⟨low, high, rfl⟩ := List.length_eq_two.mp (fits 2 rfl)
        cases found
      | like negated =>
        obtain ⟨pattern, rfl⟩ := List.length_eq_one_iff.mp (fits 1 rfl)
        cases found
      | among negated => cases values <;> cases found
      | null negated => cases found
  · rintro (refused | @⟨key, relation, valid, orders⟩)
    · rw [fault?, refused]
    · rw [fault?, valid]
      cases relation <;> first | rfl | exact absurd orders (by decide)

theorem failure?_compare (comparison : Comparison) :
    failure? (Formula.ofCriterion (.compare comparison)) = fault? comparison := by
  unfold Formula.ofCriterion fault?
  cases Name.checkKey comparison.key with
  | error fault => rfl
  | ok _ => cases Formula.ofComparison comparison <;> rfl

mutual
theorem failure?_ofCriterion : ∀ criterion : Criterion,
    failure? (Formula.ofCriterion criterion) = (comparisons criterion).findSome? fault?
  | .compare comparison => by
    rw [failure?_compare, comparisons, List.findSome?_singleton]
  | .any branches => by
    rw [comparisons, ← failure?_ofChoice branches, Formula.ofCriterion]
    rcases Formula.ofChoice branches with failure | ⟨_ | ⟨first, rest⟩⟩ <;> rfl

theorem failure?_ofCriteria : ∀ criteria : List Criterion,
    failure? (Formula.ofCriteria criteria) = (listComparisons criteria).findSome? fault?
  | [] => rfl
  | criterion :: rest => by
    rw [listComparisons, List.findSome?_append, ← failure?_ofCriterion criterion, ← failure?_ofCriteria rest]
    exact failure?_pair _ _ _

theorem failure?_ofChoice : ∀ branches : List (List Criterion),
    failure? (Formula.ofChoice branches) = (branchComparisons branches).findSome? fault?
  | [] => rfl
  | branch :: rest => by
    rw [branchComparisons, List.findSome?_append, ← failure?_ofCriteria branch, ← failure?_ofChoice rest]
    exact failure?_pair _ _ _
end

end Clause

namespace Draft
open Criterion Clause

/-- The WHERE clause of what a draft declares, without the keyword, and its parameters. -/
def whereClause (dialect : Dialect) (draft : Draft) : Outcome (String × List Value) := do
  let filter ← Formula.ofCriteria draft.criteria
  return (Piece.join dialect (Formula.allPieces filter), Piece.params (Formula.allPieces filter))

variable {draft : Draft}

theorem Stands.whereClause {condition : Condition} (stands : draft.Stands condition) (dialect : Dialect) :
    Clause.whereClause dialect condition = draft.whereClause dialect := by
  rw [Clause.whereClause, Condition.formulas, Formula.ofPredicates, stands.predicates, Draft.whereClause]

theorem failure?_whereClause (dialect : Dialect) :
    failure? (draft.whereClause dialect) = (listComparisons draft.criteria).findSome? fault? := by
  rw [← failure?_ofCriteria, whereClause]
  cases Formula.ofCriteria draft.criteria <;> rfl

theorem last_append (text ending : String) {c : Char} (last : ending.toList.getLast? = some c) :
    (text ++ ending).toList.getLast? = some c := by
  rw [String.toList_append, List.getLast?_append, last, Option.some_or]

/-- A refusal is told from a wrong number of values by the last letter of its message. -/
theorem message_ne_wrongNumber {comparison : Comparison} {failure : Failure} (refused : comparison.Refused failure)
    (operator key : String) (count : Nat) : failure.message ≠ (Failure.validation (.wrongNumber operator key count)).message := by
  have reported : ∃ c ∈ ['y', '.', 'L'], failure.message.toList.getLast? = some c := by
    rcases refused with bad | _
    · unfold Name.checkKey at bad
      split_ifs at bad
      · cases bad
        exact ⟨'y', by decide, rfl⟩
      · cases bad
        exact ⟨'.', by decide, last_append _ _ (last_append _ _ rfl)⟩
    · exact ⟨'L', by decide, last_append _ _ (last_append _ _ rfl)⟩
  have miscounted : ∃ c ∈ ['e', 's'],
      (Failure.validation (.wrongNumber operator key count)).message.toList.getLast? = some c := by
    have ending : ∃ c ∈ ['e', 's'], (if count = 1 then " value" else " values").toList.getLast? = some c := by
      split_ifs
      · exact ⟨'e', by decide, rfl⟩
      · exact ⟨'s', by decide, rfl⟩
    obtain ⟨c, listed, last⟩ := ending
    exact ⟨c, listed, last_append _ _ (last_append _ _ last)⟩
  intro same
  obtain ⟨c, known, last⟩ := reported
  obtain ⟨other, unknown, ending⟩ := miscounted
  rw [same, ending, Option.some.injEq] at last
  subst last
  revert known unknown
  simp only [List.mem_cons, List.not_mem_nil, or_false]
  rintro (rfl | rfl | rfl) <;> decide

theorem Built.fault?_eq_some (built : draft.Built) {comparison : Comparison}
    (declared : comparison ∈ listComparisons draft.criteria) {failure : Failure} :
    fault? comparison = some failure ↔ comparison.Refused failure :=
  Clause.fault?_eq_some (built.fits comparison declared)

theorem Built.exists_failure (built : draft.Built) (dialect : Dialect) :
    (∃ failure, draft.whereClause dialect = .error failure) ↔
      ∃ comparison ∈ listComparisons draft.criteria, ∃ failure, comparison.Refused failure := by
  simp only [← failure?_eq_some, failure?_whereClause]
  rw [← Option.isSome_iff_exists, List.findSome?_isSome_iff]
  refine exists_congr fun comparison => and_congr_right fun declared => ?_
  rw [Option.isSome_iff_exists]
  exact exists_congr fun failure => built.fault?_eq_some declared

/-- The first comparison that is refused is the one that is reported. -/
theorem Built.whereClause_eq_error (built : draft.Built) {dialect : Dialect} {failure : Failure} :
    draft.whereClause dialect = .error failure ↔
      ∃ before comparison after, listComparisons draft.criteria = before ++ comparison :: after ∧
        comparison.Refused failure ∧ ∀ earlier ∈ before, ∀ cause, ¬ earlier.Refused cause := by
  rw [← failure?_eq_some, failure?_whereClause, List.findSome?_eq_some_iff]
  refine exists_congr fun before => exists_congr fun comparison => exists_congr fun after => and_congr_right fun split => ?_
  have declared : comparison ∈ listComparisons draft.criteria := by simp [split]
  have clear : (∀ earlier ∈ before, fault? earlier = none) ↔ ∀ earlier ∈ before, ∀ cause, ¬ earlier.Refused cause := by
    refine forall₂_congr fun earlier member => ?_
    have inside : earlier ∈ listComparisons draft.criteria := by simp [split, member]
    rw [Option.eq_none_iff_forall_ne_some]
    exact forall_congr' fun cause => not_congr (built.fault?_eq_some inside)
  rw [built.fault?_eq_some declared, clear]

/-- What the methods declare cannot be written exactly if one of its comparisons, at any depth, has a bad key or orders NULL,
and the first one in the order of declaration is reported. None is refused for the number of its values, which is what its
operator takes. What is declared is a condition that steps build, and is written as that. -/
theorem where_fails_at_first_fault (dialect : Dialect) (built : draft.Built) :
    ((∃ failure, draft.whereClause dialect = .error failure) ↔
      ∃ comparison ∈ listComparisons draft.criteria, Name.checkKey comparison.key ≠ .ok () ∨
        ∃ relation ∈ [.lt, .lte, .gt, .gte], comparison.operator = .versus relation ∧ comparison.values = [.null]) ∧
    (∀ failure, draft.whereClause dialect = .error failure ↔
      ∃ before comparison after, listComparisons draft.criteria = before ++ comparison :: after ∧
        comparison.Refused failure ∧ ∀ earlier ∈ before, ∀ cause, ¬ earlier.Refused cause) ∧
    (∀ comparison ∈ listComparisons draft.criteria, comparison.Fits ∧
      ∀ count, Formula.ofComparison comparison ≠ .error (comparison.miscount count)) ∧
    (∀ failure, draft.whereClause dialect = .error failure →
      ∀ operator key count, failure.message ≠ (Failure.validation (.wrongNumber operator key count)).message) ∧
    ∃ model steps, draft.Stands (Condition.build { model } steps) ∧
      Clause.whereClause dialect (Condition.build { model } steps) = draft.whereClause dialect := by
  refine ⟨?_, ?_, ?_, ?_, ?_⟩
  · simp only [built.exists_failure, Comparison.exists_refused]
  · intro failure
    exact built.whereClause_eq_error
  · intro comparison declared
    have fits := built.fits comparison declared
    refine ⟨fits, ?_⟩
    intro count refused
    obtain ⟨takes, other⟩ := Comparison.ofComparison_eq_miscount.mp refused
    exact other (fits count takes)
  · intro failure failed operator key count
    obtain ⟨_, comparison, _, _, refused, _⟩ := built.whereClause_eq_error.mp failed
    exact message_ne_wrongNumber refused operator key count
  · obtain ⟨model, steps, stands⟩ := built.stands
    exact ⟨model, steps, stands, stands.whereClause dialect⟩

/-- The key inside the choice is reported, before its comparison with NULL and the key after it. -/
theorem bad_key_reported_first :
    let nested : Draft := ({} : Draft).compare (.lt "b;" .null)
    let draft : Draft :=
      ((((({} : Draft).compare (.eq "a" .null)).set (.page 1 10)).either [{}]).either [nested]).compare (.isNull "")
    draft.Built ∧ draft.whereClause .sqlite = .error (.validation (.badName (.badKey "b;"))) := by
  intro nested draft
  have bare : ({} : Draft).Built := .bare none
  have inner : nested.Built := bare.compare (.lt "b;" .null)
  have built : draft.Built := by
    apply Built.compare _ (.isNull "")
    apply Built.either _ (List.forall_mem_singleton.mpr inner)
    apply Built.either _ (List.forall_mem_singleton.mpr bare)
    exact (bare.compare (.eq "a" .null)).set rfl
  refine ⟨built, ((where_fails_at_first_fault .sqlite built).2.1 _).mpr ?_⟩
  refine ⟨[.eq "a" .null], .lt "b;" .null, [.isNull ""], rfl, .badKey rfl, ?_⟩
  intro earlier member cause refused
  rw [List.mem_singleton.mp member] at refused
  cases refused with
  | badKey bad => cases bad
  | orderedNull _ orders => exact absurd orders (by decide)

end Draft

end RecordMapper
