import Mathlib.Data.List.Forall2
import RecordMapper.Failure

/-! What a successful sequence of steps says about each of them, and in which ways a sequence can fail. -/

namespace RecordMapper.Outcome

theorem bind_eq_ok {first : Except ε α} {next : α → Except ε β} {result : β} :
    first >>= next = .ok result ↔ ∃ found, first = .ok found ∧ next found = .ok result := by
  cases first <;> simp [bind, Except.bind]

theorem pure_eq_ok {found result : α} : (pure found : Except ε α) = .ok result ↔ found = result := by
  simp [pure, Except.pure]

theorem throw_bind_ne_ok {cause : ε} {next : α → Except ε β} {result : β} :
    (throw cause >>= next : Except ε β) ≠ .ok result := nofun

/-- A guard in front of what follows lets it through. -/
theorem guarded_eq_ok {refused : Prop} [Decidable refused] {cause : ε} {after : α → Except ε β}
    {next : Except ε β} {result : β} :
    (if refused then throw cause >>= after else next) = .ok result ↔ ¬ refused ∧ next = .ok result := by
  by_cases holds : refused <;> simp [holds, throw_bind_ne_ok]

/-- Steps over a list succeed exactly if each of them does. -/
theorem mapM_eq_ok {step : α → Except ε β} {items : List α} {results : List β} :
    items.mapM step = .ok results ↔ List.Forall₂ (fun item result => step item = .ok result) items results := by
  induction items generalizing results with
  | nil =>
    rw [List.mapM_nil, pure_eq_ok, List.forall₂_nil_left_iff]
    exact eq_comm
  | cons item rest ih =>
    simp only [List.mapM_cons, bind_eq_ok, pure_eq_ok, ih, List.forall₂_cons_left_iff]
    constructor
    · rintro ⟨first, here, others, later, rfl⟩
      exact ⟨first, others, here, later, rfl⟩
    · rintro ⟨first, others, here, later, rfl⟩
      exact ⟨first, here, others, later, rfl⟩

/-- Steps over a list have some result exactly if each of them has one. -/
theorem mapM_succeeds {step : α → Except ε β} {items : List α} :
    (∃ results, items.mapM step = .ok results) ↔ ∀ item ∈ items, ∃ result, step item = .ok result := by
  simp only [mapM_eq_ok]
  induction items with
  | nil => simp
  | cons item rest ih =>
    simp only [List.forall₂_cons_left_iff, List.forall_mem_cons, ← ih]
    constructor
    · rintro ⟨_, result, others, here, later, _⟩
      exact ⟨⟨result, here⟩, others, later⟩
    · rintro ⟨⟨result, here⟩, others, later⟩
      exact ⟨_, result, others, here, later, rfl⟩

/-- Steps of which each succeeds for good items and with a known result succeed over a list of good items. -/
theorem mapM_eq_ok_map {step : α → Except ε β} {good : α → Prop} {result : α → β}
    (each : ∀ item value, step item = .ok value ↔ good item ∧ value = result item) {items : List α} {results : List β} :
    items.mapM step = .ok results ↔ (∀ item ∈ items, good item) ∧ results = items.map result := by
  simp only [mapM_eq_ok, each]
  constructor
  · intro steps
    induction steps with
    | nil => simp
    | cons first _ ih => simp_all
  · rintro ⟨all, rfl⟩
    rw [List.forall₂_map_right_iff, List.forall₂_same]
    exact fun item member => ⟨all item member, rfl⟩

theorem checkedName_eq_ok {result : Except Name.Fault Unit} {accepted : Unit} :
    checkedName result = .ok accepted ↔ result = .ok () := by
  cases result with
  | ok accepted => exact iff_of_true rfl rfl
  | error fault => exact iff_of_false nofun nofun
theorem fails_iff {outcome : Except ε α} : (∃ cause, outcome = .error cause) ↔ ¬ ∃ value, outcome = .ok value := by
  cases outcome <;> simp

end RecordMapper.Outcome

namespace RecordMapper

/-- Whatever makes an outcome fail is one of the failures allowed. -/
def FailsOnly (allowed : Failure → Prop) (outcome : Outcome α) : Prop :=
  ∀ failure, outcome = .error failure → allowed failure

namespace FailsOnly

variable {allowed : Failure → Prop}

theorem ok (value : α) : FailsOnly allowed (.ok value) := nofun

theorem pure (value : α) : FailsOnly allowed (Pure.pure value) := nofun

theorem error {failure : Failure} (holds : allowed failure) : FailsOnly allowed (.error failure : Outcome α) := by
  rintro _ ⟨⟩
  exact holds

theorem bind {first : Outcome α} {next : α → Outcome β} (before : FailsOnly allowed first)
    (after : ∀ value, FailsOnly allowed (next value)) : FailsOnly allowed (first >>= next) := by
  cases first with
  | ok value => exact after value
  | error failure => exact error (before failure rfl)

theorem mapM {step : α → Outcome β} (each : ∀ item, FailsOnly allowed (step item)) (items : List α) :
    FailsOnly allowed (items.mapM step) := by
  induction items with
  | nil => exact pure []
  | cons item rest ih =>
    rw [List.mapM_cons]
    exact bind (each item) fun first => bind ih fun others => pure _

theorem map {outcome : Outcome α} (before : FailsOnly allowed outcome) (result : α → β) :
    FailsOnly allowed (outcome.map result) := by
  cases outcome with
  | ok value => exact ok _
  | error failure => exact error (before failure rfl)

theorem guard {refused : Prop} [Decidable refused] {cause : Failure} {after : α → Outcome β} {next : Outcome β}
    (holds : allowed cause) (passed : FailsOnly allowed next) :
    FailsOnly allowed (if refused then throw cause >>= after else next) := by
  split
  · exact error holds
  · exact passed

theorem mono {weaker : Failure → Prop} {outcome : Outcome α} (fails : FailsOnly allowed outcome)
    (implies : ∀ failure, allowed failure → weaker failure) : FailsOnly weaker outcome :=
  fun failure failed => implies failure (fails failure failed)

end FailsOnly

end RecordMapper
