import RecordMapper.Proofs.CheckedNames

/-! The order in which a condition is built. Steps that fill different parts of it change places freely, and of those that
replace a part only the last one is left, so two runs of steps that agree part by part build the same condition. -/

namespace RecordMapper.Condition

/-- The parts of a condition that steps fill. A total is stored apart from the page that it belongs to. -/
inductive Slot where
  | predicates
  | sorts
  | groups
  | fields
  | source
  | join
  | page
  | upset
  | total
  deriving DecidableEq

namespace Slot

def all : List Slot := [.predicates, .sorts, .groups, .fields, .source, .join, .page, .upset, .total]

theorem mem_all (slot : Slot) : slot ∈ all := by cases slot <;> decide

/-- Whether what is filled in stays when more comes. -/
def addsUp : Slot → Bool
  | .predicates | .sorts | .groups => true
  | _ => false

end Slot

def Step.slot : Step → Slot
  | .test .. | .either _ => .predicates
  | .orderBy .. => .sorts
  | .groupBy _ => .groups
  | .project _ => .fields
  | .source .. => .source
  | .join .. => .join
  | .page .. | .offset .. => .page
  | .upset .. => .upset
  | .counted _ => .total

def ofSlot (slot : Slot) (steps : List Step) : List Step := steps.filter fun step => step.slot = slot

def besides (slot : Slot) (steps : List Step) : List Step := steps.filter fun step => step.slot ≠ slot

/-- Two runs with the same steps, in the same order, for each slot that adds up, and the same last step for every other slot. -/
structure Agree (first second : List Step) : Prop where
  added : ∀ slot : Slot, slot.addsUp = true → ofSlot slot first = ofSlot slot second
  last : ∀ slot : Slot, slot.addsUp = false → (ofSlot slot first).getLast? = (ofSlot slot second).getLast?

/-- Steps for different slots change places. A page and a total meet in the number of pages, which the later of the two brings
in line with both. -/
theorem apply_comm {first second : Step} (apart : first.slot ≠ second.slot) (condition : Condition) :
    (condition.apply first).apply second = (condition.apply second).apply first := by
  cases first <;> cases second <;> first | rfl | exact absurd rfl apart

/-- A step that replaces a slot leaves nothing of an earlier one. -/
theorem apply_replaced {first second : Step} (same : first.slot = second.slot) (replaced : second.slot.addsUp = false)
    (condition : Condition) : (condition.apply first).apply second = condition.apply second := by
  cases second with
  | test | either | orderBy | groupBy => cases replaced
  | project | source | join | page | offset | upset | counted => cases first <;> first | rfl | cases same

theorem build_cons (step : Step) (steps : List Step) (condition : Condition) :
    condition.build (step :: steps) = (condition.apply step).build steps := rfl

theorem build_apply_comm {step : Step} {steps : List Step} (apart : ∀ other ∈ steps, step.slot ≠ other.slot)
    (condition : Condition) : (condition.apply step).build steps = (condition.build steps).apply step := by
  induction steps generalizing condition with
  | nil => rfl
  | cons other rest ih =>
    rw [List.forall_mem_cons] at apart
    rw [build_cons, build_cons, apply_comm apart.1, ih apart.2]

/-- The steps of one slot may be taken before all others. -/
theorem build_ofSlot (slot : Slot) (steps : List Step) (condition : Condition) :
    condition.build steps = (condition.build (ofSlot slot steps)).build (besides slot steps) := by
  induction steps generalizing condition with
  | nil => rfl
  | cons step rest ih =>
    rw [build_cons, ih]
    by_cases same : step.slot = slot
    · simp [ofSlot, besides, same, build_cons]
    · have apart : ∀ other ∈ ofSlot slot rest, step.slot ≠ other.slot := by
        intro other member
        have filled : other.slot = slot := by simpa using (List.mem_filter.mp member).2
        rw [filled]
        exact same
      rw [build_apply_comm apart]
      simp [ofSlot, besides, same, build_cons]

theorem build_last {slot : Slot} (replaced : slot.addsUp = false) {steps : List Step}
    (filled : ∀ step ∈ steps, step.slot = slot) (condition : Condition) :
    condition.build steps = condition.build steps.getLast?.toList := by
  induction steps generalizing condition with
  | nil => rfl
  | cons step rest ih =>
    rw [List.forall_mem_cons] at filled
    cases rest with
    | nil => rfl
    | cons next rest =>
      have later := filled.2 next List.mem_cons_self
      rw [build_cons, build_cons, apply_replaced (filled.1.trans later.symm) (later ▸ replaced), ← build_cons, ih filled.2,
        List.getLast?_cons_cons]

variable {first second : List Step}

theorem Agree.build_ofSlot (agree : Agree first second) (slot : Slot) (condition : Condition) :
    condition.build (ofSlot slot first) = condition.build (ofSlot slot second) := by
  have filled (steps : List Step) : ∀ step ∈ ofSlot slot steps, step.slot = slot := by
    intro step member
    simpa using (List.mem_filter.mp member).2
  cases adds : slot.addsUp with
  | true => rw [agree.added slot adds]
  | false => rw [build_last adds (filled first), agree.last slot adds, ← build_last adds (filled second)]

theorem ofSlot_besides_self (slot : Slot) (steps : List Step) : ofSlot slot (besides slot steps) = [] := by
  simp [ofSlot, besides]

theorem ofSlot_besides_of_ne {slot other : Slot} (apart : other ≠ slot) (steps : List Step) :
    ofSlot other (besides slot steps) = ofSlot other steps := by
  rw [ofSlot, besides, List.filter_filter]
  apply List.filter_congr
  intro step _
  by_cases filled : step.slot = other
  · simp [filled, apart]
  · simp [filled]

theorem Agree.besides (agree : Agree first second) (slot : Slot) : Agree (besides slot first) (besides slot second) := by
  constructor
  · intro other adds
    by_cases same : other = slot
    · rw [same, ofSlot_besides_self, ofSlot_besides_self]
    · rw [ofSlot_besides_of_ne same, ofSlot_besides_of_ne same, agree.added other adds]
  · intro other replaced
    by_cases same : other = slot
    · rw [same, ofSlot_besides_self, ofSlot_besides_self]
    · rw [ofSlot_besides_of_ne same, ofSlot_besides_of_ne same, agree.last other replaced]

theorem slots_besides {slot : Slot} {slots : List Slot} {steps : List Step}
    (left : ∀ step ∈ steps, step.slot ∈ slot :: slots) : ∀ step ∈ besides slot steps, step.slot ∈ slots := by
  intro step member
  obtain ⟨inside, apart⟩ := List.mem_filter.mp member
  rcases List.mem_cons.mp (left step inside) with same | later
  · exact absurd same (of_decide_eq_true apart)
  · exact later

/-- The induction is on the slots that are still to be filled: each is filled first by both runs, and alike. -/
theorem Agree.build_eq (agree : Agree first second) {slots : List Slot} (one : ∀ step ∈ first, step.slot ∈ slots)
    (other : ∀ step ∈ second, step.slot ∈ slots) (condition : Condition) :
    condition.build first = condition.build second := by
  induction slots generalizing first second condition with
  | nil =>
    have none_ {steps : List Step} (unfilled : ∀ step ∈ steps, step.slot ∈ ([] : List Slot)) : steps = [] :=
      List.eq_nil_iff_forall_not_mem.mpr fun step member => List.not_mem_nil (unfilled step member)
    rw [none_ one, none_ other]
  | cons slot slots ih =>
    rw [Condition.build_ofSlot slot first, Condition.build_ofSlot slot second, agree.build_ofSlot slot]
    exact ih (agree.besides slot) (slots_besides one) (slots_besides other) _

/-- Two runs of steps that agree for each part of a condition build the same condition from the same one, with the same number
of pages, and the same statements are made of it. -/
theorem build_order_free (agree : Agree first second) (start : Condition) :
    start.build first = start.build second ∧
      (start.build first).paging.pages = (start.build second).paging.pages ∧
      ∀ database metadata statement trusted,
        Statement.Made database metadata (start.build first) statement trusted ↔
          Statement.Made database metadata (start.build second) statement trusted := by
  have same := agree.build_eq (fun step _ => Slot.mem_all step.slot) (fun step _ => Slot.mem_all step.slot) start
  rw [same]
  exact ⟨rfl, rfl, fun _ _ _ _ => Iff.rfl⟩

/-- A total that is stored before the page is asked for, and between two pages. -/
theorem total_before_page :
    let owner : Step := .test "owner" (.versus .eq (.int 1))
    let named : Step := .test "name" (.null true)
    let first : List Step := [owner, .counted 21, .page 3 10, .orderBy "name" .desc, named]
    let second : List Step :=
      [.orderBy "name" .desc, .page 1 50, owner, .counted 5, .page 3 10, named, .counted 21]
    Agree first second ∧ build {} first = build {} second ∧ (build {} second).paging.pages = some 3 := by
  intro owner named first second
  have agree : Agree first second := by
    constructor
    all_goals
      intro slot kind
      cases slot <;> first | rfl | cases kind
  obtain ⟨same, pages, _⟩ := build_order_free agree {}
  have stored : (build {} first).paging.pages = some 3 := by decide +kernel
  exact ⟨agree, same, pages.symm.trans stored⟩

end RecordMapper.Condition
