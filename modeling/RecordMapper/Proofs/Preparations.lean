import RecordMapper.Proofs.Outcomes
import RecordMapper.Work.Reads

/-! What a read works out before its statement is sent: a description, names, filters and the statement itself. None of
it fails the way that only an answer can be wrong, or because the unit of work is closed. -/

namespace RecordMapper

/-- Complaints about what a statement has returned. -/
def Failure.aboutAnswer : Failure → Bool
  | .validation .noCountRow | .validation (.fractionalInt _) => true
  | _ => false

/-- An outcome that needs no answer and no open unit of work. -/
abbrev Prepares (outcome : Outcome α) : Prop :=
  FailsOnly (fun failure => failure ≠ .closed ∧ failure.aboutAnswer = false) outcome

theorem prepared_checkedName (result : Except Name.Fault Unit) : Prepares (checkedName result) := by
  cases result with
  | ok accepted => exact .ok _
  | error fault => exact .error ⟨nofun, rfl⟩

theorem prepared_lookup (registry : Registry) (typeName : String) : Prepares (registry.lookup typeName) := by
  unfold Registry.lookup
  split
  · exact .ok _
  · exact .error ⟨nofun, rfl⟩

namespace Metadata

theorem prepared_checkModel (metadata : Metadata) (model : Model α) : Prepares (metadata.checkModel model) := by
  unfold checkModel
  split
  · exact .ok _
  · exact .error ⟨nofun, rfl⟩

theorem prepared_encode (metadata : Metadata) (model : Model α) (object : α) :
    Prepares (metadata.encode model object) := by
  apply FailsOnly.bind (metadata.prepared_checkModel model)
  intro _
  split
  · exact .pure _
  · exact .error ⟨nofun, rfl⟩
  · exact .error ⟨nofun, rfl⟩

theorem prepared_keyOf (metadata : Metadata) (record : Record) : Prepares (metadata.keyOf record) := by
  unfold keyOf Value.ofJson
  split
  · exact .ok _
  · exact .error ⟨nofun, rfl⟩

end Metadata

namespace Formula

theorem prepared_ofTest (key : String) (test : Test) : Prepares (ofTest key test) := by
  cases test with
  | versus relation value => cases value <;> cases relation <;> first | exact .ok _ | exact .error ⟨nofun, rfl⟩
  | among negated values => cases values <;> exact .ok _
  | between _ _ _ | like _ _ | null _ => exact .ok _

mutual
theorem prepared_ofPredicate : ∀ predicate : Predicate, Prepares (ofPredicate predicate)
  | .compare key test => by
    rw [ofPredicate_compare_eq]
    exact .bind (prepared_checkedName _) fun _ => .bind (prepared_ofTest key test) fun _ => .pure _
  | .any branches => by
    rw [ofPredicate_any_eq]
    apply FailsOnly.bind (prepared_ofBranches branches)
    intro found
    split <;> exact .pure _

theorem prepared_ofPredicates : ∀ predicates : List Predicate, Prepares (ofPredicates predicates)
  | [] => .pure _
  | predicate :: rest => by
    rw [ofPredicates_cons_eq]
    exact .bind (prepared_ofPredicate predicate) fun _ => .bind (prepared_ofPredicates rest) fun _ => .pure _

theorem prepared_ofBranches : ∀ branches : List (List Predicate), Prepares (ofBranches branches)
  | [] => .pure _
  | branch :: rest => by
    rw [ofBranches_cons_eq]
    exact .bind (prepared_ofPredicates branch) fun _ => .bind (prepared_ofBranches rest) fun _ => .pure _
end

end Formula

namespace Condition

theorem prepared_formulas (condition : Condition) : Prepares condition.formulas :=
  Formula.prepared_ofPredicates condition.predicates

theorem prepared_groupRefs (condition : Condition) : Prepares condition.groupRefs :=
  .mapM (fun _ => .bind (prepared_checkedName _) fun _ => .pure _) condition.groups

theorem prepared_sortRefs (condition : Condition) : Prepares condition.sortRefs :=
  .mapM (fun _ => .bind (prepared_checkedName _) fun _ => .pure _) condition.sorts

end Condition

theorem TableRef.prepared_make (database : Option String) (table : String) :
    Prepares (TableRef.make database table) := by
  apply FailsOnly.bind (prepared_checkedName _)
  intro _
  split
  · exact .pure _
  · split
    · exact .pure _
    · exact .bind (prepared_checkedName _) fun _ => .pure _

namespace Statement

theorem prepared_projection (metadata : Metadata) (condition : Condition) :
    Prepares (projection metadata condition) := by
  unfold projection
  split
  · exact .ok _
  · apply FailsOnly.mapM
    intro name
    unfold readable
    split
    · exact .ok _
    · exact .error ⟨nofun, rfl⟩

theorem prepared_select (database : Option String) (metadata : Metadata) (condition : Condition) :
    Prepares (select database metadata condition) := by
  refine .bind condition.prepared_formulas fun _ => .bind (prepared_projection metadata condition) fun _ => ?_
  refine .bind (TableRef.prepared_make database metadata.table) fun _ => ?_
  exact .bind condition.prepared_groupRefs fun _ => .bind condition.prepared_sortRefs fun _ => .pure _

theorem prepared_joinedTable (database : Option String) (join : Join) : Prepares (joinedTable database join) := by
  unfold joinedTable
  split
  · exact .error ⟨nofun, rfl⟩
  · apply FailsOnly.bind (TableRef.prepared_make database _)
    intro table
    dsimp only
    split
    · rw [pure_bind]
      exact .guard ⟨nofun, rfl⟩ (.guard ⟨nofun, rfl⟩ (.pure _))
    · apply FailsOnly.bind (prepared_checkedName _)
      intro _
      rw [pure_bind]
      exact .guard ⟨nofun, rfl⟩ (.guard ⟨nofun, rfl⟩ (.pure _))

theorem prepared_complexSource (database : Option String) (condition : Condition) :
    Prepares (complexSource database condition) := by
  unfold complexSource
  split
  · exact .error ⟨nofun, rfl⟩
  · refine .bind (prepared_checkedName _) fun _ => .bind (TableRef.prepared_make database _) fun _ => ?_
    split
    · exact .pure _
    · exact .bind (prepared_joinedTable database _) fun _ => .pure _

theorem prepared_selectComplex (database : Option String) (condition : Condition) :
    Prepares (selectComplex database condition) := by
  refine .guard ⟨nofun, rfl⟩ (.bind (prepared_complexSource database condition) fun _ => ?_)
  refine .bind condition.prepared_formulas fun _ => ?_
  exact .bind condition.prepared_groupRefs fun _ => .bind condition.prepared_sortRefs fun _ => .pure _

theorem prepared_countedTable (database : Option String) (metadata : Option Metadata) :
    Prepares (countedTable database metadata) := by
  cases metadata with
  | none => exact .error ⟨nofun, rfl⟩
  | some metadata => exact TableRef.prepared_make database metadata.table

theorem prepared_count (database : Option String) (metadata : Option Metadata) (condition : Condition) :
    Prepares (count database metadata condition) := by
  refine .bind condition.prepared_formulas fun _ => .bind condition.prepared_groupRefs fun _ => ?_
  split
  · exact .guard ⟨nofun, rfl⟩ (.bind (prepared_complexSource database condition) fun _ => .pure _)
  · apply FailsOnly.bind (prepared_countedTable database metadata)
    intro _
    split <;> exact .pure _

theorem prepared_exists (database : Option String) (metadata : Metadata) (condition : Condition) :
    Prepares (exists? database metadata condition) :=
  .bind condition.prepared_formulas fun _ => .bind (TableRef.prepared_make database metadata.table) fun _ => .pure _

end Statement

namespace Work

theorem prepared_boundModel (s : Surroundings σ) (operation : String) (condition : Condition) :
    Prepares (boundModel s operation condition) := by
  unfold boundModel
  split
  · exact .error ⟨nofun, rfl⟩
  · exact prepared_lookup s.registry _

theorem prepared_modelFor (s : Surroundings σ) (model : Model α) (condition : Condition) :
    Prepares (modelFor s model condition) := by
  apply FailsOnly.bind (prepared_lookup s.registry model.name)
  intro metadata
  split
  · exact .pure _
  · split
    · exact .pure _
    · exact .error ⟨nofun, rfl⟩

theorem prepared_reading (database : Option String) (complex : Bool) (metadata : Metadata) (condition : Condition) :
    Prepares (reading database complex metadata condition) := by
  cases complex with
  | false => exact Statement.prepared_select database metadata condition
  | true => exact Statement.prepared_selectComplex database condition

end Work

end RecordMapper
