import RecordMapper.Proofs.FormulaMeaning

/-! The WHERE clause of a condition: its text and parameters, read back, mean the condition's predicates. -/

namespace RecordMapper.Clause
open Outcome

/-- The WHERE clause of a condition, without the keyword, and its parameters. -/
def whereClause (dialect : Dialect) (condition : Condition) : Outcome (String × List Value) := do
  let filter ← condition.formulas
  return (Piece.join dialect (Formula.allPieces filter), Piece.params (Formula.allPieces filter))

theorem whereClause_eq_ok {dialect : Dialect} {condition : Condition} {clause : String} {params : List Value} :
    whereClause dialect condition = .ok (clause, params) ↔
      ∃ filter, condition.formulas = .ok filter ∧ clause = Piece.join dialect (Formula.allPieces filter) ∧
        params = Piece.params (Formula.allPieces filter) := by
  simp only [whereClause, bind_eq_ok, pure_eq_ok, Prod.mk.injEq]
  constructor
  · rintro ⟨filter, made, rfl, rfl⟩
    exact ⟨filter, made, rfl, rfl⟩
  · rintro ⟨filter, made, rfl, rfl⟩
    exact ⟨filter, made, rfl, rfl⟩

theorem spaced_allPieces {filter : List Formula} (sound : AllSound filter) : Spaced (Formula.allPieces filter) := by
  cases filter with
  | nil => exact .nil
  | cons formula rest =>
    obtain ⟨others, joins⟩ := spaced_conjoined rest sound.2 (show Breaks [] from trivial) .nil
    simpa [Formula.allPieces] using spaced_pieces formula sound.1 joins others

theorem fixed_mem_texts (dialect : Dialect) {text : String} : ∀ {pieces : List Piece} (index : Nat),
    .fixed text ∈ pieces → text ∈ Piece.texts dialect index pieces
  | piece :: rest, index, member => by
    rcases List.mem_cons.mp member with rfl | inside
    · exact List.mem_cons_self
    · exact List.mem_cons_of_mem _ (fixed_mem_texts dialect _ inside)

theorem join_ne_empty (dialect : Dialect) {pieces : List Piece} {text : String} (member : .fixed text ∈ pieces)
    (visible : text ≠ "") : Piece.join dialect pieces ≠ "" := by
  intro empty
  have none : letters dialect 1 pieces = [] := by
    rw [← toList_join, empty]
    rfl
  have blank := List.flatMap_eq_nil_iff.mp none text (fixed_mem_texts dialect 1 member)
  exact visible (by simpa using blank)

/-- Every formula has a keyword, a relation or a bracket. -/
theorem visible_pieces (formula : Formula) : ∃ text, .fixed text ∈ formula.pieces ∧ text ≠ "" := by
  cases formula with
  | versus column relation against =>
    exact ⟨" " ++ relation.symbol ++ " ", by simp [Formula.pieces], by cases relation <;> decide⟩
  | between column negated low high => exact ⟨" AND ", by simp [Formula.pieces], by decide⟩
  | among column negated values =>
    exact ⟨if negated then " NOT IN " else " IN ", by simp [Formula.pieces], by cases negated <;> decide⟩
  | like column negated pattern =>
    exact ⟨if negated then " NOT LIKE " else " LIKE ", by simp [Formula.pieces], by cases negated <;> decide⟩
  | null column negated =>
    exact ⟨if negated then " IS NOT NULL" else " IS NULL", by simp [Formula.pieces], by cases negated <;> decide⟩
  | constant holds =>
    exact ⟨if holds then "1 = 1" else "1 = 0", by simp [Formula.pieces], by cases holds <;> decide⟩
  | any branches => exact ⟨"(", by simp [Formula.pieces], by decide⟩

theorem join_allPieces_eq_empty (dialect : Dialect) (filter : List Formula) :
    Piece.join dialect (Formula.allPieces filter) = "" ↔ filter = [] := by
  constructor
  · intro empty
    cases filter with
    | nil => rfl
    | cons formula rest =>
      obtain ⟨text, member, visible⟩ := visible_pieces formula
      exact absurd empty (join_ne_empty dialect (List.mem_append_left _ member) visible)
  · rintro rfl
    rfl

theorem lexemes_clause (known : Known) {filter : List Formula} (sound : AllSound filter) :
    lexemes? known (Piece.join known.dialect (Formula.allPieces filter)).toList =
      some (written known.dialect 1 (Formula.allPieces filter)) := by
  rw [toList_join]
  exact lexemes_letters known (spaced_allPieces sound) 1

theorem read_clause (known : Known) {filter : List Formula} (filled : filter ≠ []) (sound : AllSound filter) :
    read? known (Piece.params (Formula.allPieces filter)) (Piece.join known.dialect (Formula.allPieces filter)) =
      some [groupedAll filter] := by
  rw [read?, lexemes_clause known sound]
  simp [bind_written known.dialect (spaced_allPieces sound) 1, readClause_allPieces filled sound]

/-- The text of a WHERE clause means the tree of predicates. Its placeholders are those of the parameters, in
their order, and with each parameter in the place of its placeholder the text reads as a choice that has, for
every row, the value of the predicates together. An empty text stands for predicates that every row meets. -/
theorem whereClause_means_predicates (known : Known) (condition : Condition) (clause : String) (params : List Value)
    (built : whereClause known.dialect condition = .ok (clause, params)) :
    (∃ lexemes, lexemes? known clause.toList = some lexemes ∧
      slots lexemes = (List.range params.length).map fun i => known.dialect.placeholder (i + 1)) ∧
    (clause ≠ "" → ∃ branches, read? known params clause = some branches ∧
      ∀ row, anyValue (fun _ => row) 0 branches = predicatesValue row condition.predicates) ∧
    (clause = "" → params = [] ∧ ∀ row, predicatesValue row condition.predicates = .yes) := by
  obtain ⟨filter, made, rfl, rfl⟩ := whereClause_eq_ok.mp built
  have sound : AllSound filter := sound_ofPredicates made
  refine ⟨⟨_, lexemes_clause known sound, ?_⟩, fun filled => ?_, fun empty => ?_⟩
  · simpa only [Nat.add_comm 1] using slots_written known.dialect (spaced_allPieces sound) 1
  · have some_ : filter ≠ [] := mt (join_allPieces_eq_empty known.dialect filter).mpr filled
    refine ⟨_, read_clause known some_ sound, fun row => ?_⟩
    rw [value_read]
    exact value_ofPredicates row made 0
  · obtain rfl := (join_allPieces_eq_empty known.dialect filter).mp empty
    exact ⟨rfl, fun row => (value_ofPredicates row made 0).symm⟩

/-- A choice whose second branch renders nothing, with a range, a null test and an empty set in the others. -/
theorem choice_means_predicates :
    let predicates : List Predicate :=
      [.any [[.compare "a" (.between false (.int 1) (.int 2)), .compare "t.b" (.versus .eq .null)], [.any []],
        [.compare "c" (.among false [])]], .compare "d" (.versus .gt (.int 3))]
    ∃ branches,
      read? (.numbered 9) [.int 1, .int 2, .int 3]
          "(([a] BETWEEN $1 AND $2 AND [t].[b] IS NULL) OR 1 = 0) AND [d] > $3" = some branches ∧
        ∀ row, anyValue (fun _ => row) 0 branches = predicatesValue row predicates :=
  (whereClause_means_predicates (.numbered 9) { predicates := _ } _ _ rfl).2.1 (by decide)

end RecordMapper.Clause
