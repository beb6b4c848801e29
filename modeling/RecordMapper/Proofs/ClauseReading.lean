import RecordMapper.Proofs.ClauseGrammar
import RecordMapper.Proofs.ClauseSpacing

/-! A written clause reads back. The brackets that are written are those the grammar needs, so what is read differs
from what was written only in one-branch choices around the branches that stand in brackets. -/

namespace RecordMapper.Clause

mutual
/-- What a formula is read back as. -/
def grouped : Formula → Formula
  | .any branches => .any (groupedBranches branches)
  | formula => formula

def groupedBranches : List (List Formula) → List (List Formula)
  | [] => []
  | branch :: rest => groupedBranch branch :: groupedBranches rest

/-- Several formulas of a branch stand in a bracket of their own. -/
def groupedBranch : List Formula → List Formula
  | [] => []
  | [formula] => [grouped formula]
  | formula :: rest => [.any [grouped formula :: groupedAll rest]]

def groupedAll : List Formula → List Formula
  | [] => []
  | formula :: rest => grouped formula :: groupedAll rest
end

/-- What cannot follow a formula that AND can still join. -/
def EndsAll (rest : List Lexeme) : Prop := rest.head? ≠ some (.word .and)

/-- What cannot follow branches that OR can still join. -/
def EndsAny (rest : List Lexeme) : Prop := EndsAll rest ∧ rest.head? ≠ some (.word .or)

theorem bound_append (first second : List Piece) : bound (first ++ second) = bound first ++ bound second := by
  induction first with
  | nil => rfl
  | cons piece rest ih => cases piece <;> simp [bound, ih]

theorem ofFixed_relation (relation : Relation) : ofFixed (" " ++ relation.symbol ++ " ") = [.relation relation] := by
  cases relation <;> rfl

theorem ofFixed_between (negated : Bool) : ofFixed (if negated then " NOT BETWEEN " else " BETWEEN ") =
    if negated then [.word .not, .word .between] else [.word .between] := by
  cases negated <;> rfl

theorem ofFixed_among (negated : Bool) : ofFixed (if negated then " NOT IN " else " IN ") =
    if negated then [.word .not, .word .among] else [.word .among] := by
  cases negated <;> rfl

theorem ofFixed_like (negated : Bool) : ofFixed (if negated then " NOT LIKE " else " LIKE ") =
    if negated then [.word .not, .word .like] else [.word .like] := by
  cases negated <;> rfl

theorem ofFixed_null (negated : Bool) : ofFixed (if negated then " IS NOT NULL" else " IS NULL") =
    if negated then [.word .is, .word .not, .word .null] else [.word .is, .word .null] := by
  cases negated <;> rfl

theorem ofFixed_opening : ofFixed "(" = [.opening] := rfl

theorem ofFixed_closing : ofFixed ")" = [.closing] := rfl

theorem ofFixed_and : ofFixed " AND " = [.word .and] := rfl

theorem ofFixed_or : ofFixed " OR " = [.word .or] := rfl

theorem readParts_names (rest : List Lexeme) (ends : rest.head? ≠ some .point) :
    ∀ parts : List String, parts ≠ [] →
      readParts (bound (Piece.separated "." (parts.map fun part => [.name part])) ++ rest) = some (parts, rest)
  | [], named => absurd rfl named
  | [part], _ => by
    cases rest with
    | nil => rfl
    | cons lexeme more => cases lexeme <;> first | rfl | exact absurd rfl ends
  | part :: second :: more, _ => by
    have others := readParts_names rest ends (second :: more) (by simp)
    have shape : bound (Piece.separated "." ((part :: second :: more).map fun part => [.name part])) ++ rest =
        .name part :: .point ::
          (bound (Piece.separated "." ((second :: more).map fun part => [.name part])) ++ rest) := rfl
    simp only [shape, readParts, others, Option.map_some]

theorem bound_column {column : ColumnRef} (legible : Legible column) :
    ∃ name more, bound column.pieces = .name name :: more := by
  cases shape : column.parts with
  | nil => exact absurd shape legible.named
  | cons part others => cases others <;> simp [ColumnRef.pieces, shape, Piece.separated, bound]

theorem readOne_column {column : ColumnRef} (legible : Legible column) {fuel : Nat} (fuelled : 0 < fuel)
    (rest : List Lexeme) (ends : rest.head? ≠ some .point) :
    readOne fuel (bound column.pieces ++ rest) = readTest column rest := by
  have parts : readParts (bound column.pieces ++ rest) = some (column.parts, rest) :=
    readParts_names rest ends column.parts legible.named
  obtain ⟨name, more, shape⟩ := bound_column legible
  rw [shape] at parts ⊢
  cases fuel with
  | zero => cases fuelled
  | succ fuel =>
    have entered : readOne (fuel + 1) (.name name :: more ++ rest) =
        (readParts (.name name :: more ++ rest)).bind fun read => readTest ⟨read.1⟩ read.2 := rfl
    rw [entered, parts]
    rfl

theorem readValues_slots (rest : List Lexeme) : ∀ values : List Value, values ≠ [] →
    readValues (bound (Piece.separated ", " (values.map fun value => [.slot value])) ++ .closing :: rest) =
      some (values, rest)
  | [], filled => absurd rfl filled
  | [value], _ => rfl
  | value :: second :: more, _ => by
    have others := readValues_slots rest (second :: more) (by simp)
    have shape : bound (Piece.separated ", " ((value :: second :: more).map fun value => [.slot value])) ++
          .closing :: rest =
        .value value :: .comma ::
          (bound (Piece.separated ", " ((second :: more).map fun value => [.slot value])) ++ .closing :: rest) := rfl
    simp only [shape, readValues, others, Option.map_some]

/-- The fuel that pieces need: four steps for each lexeme. -/
def cost (pieces : List Piece) : Nat := 4 * (bound pieces).length

theorem readMoreAll_ends {fuel : Nat} (some_ : 0 < fuel) {rest : List Lexeme} (ends : EndsAll rest) :
    readMoreAll fuel rest = some ([], rest) := by
  cases fuel with
  | zero => cases some_
  | succ fuel =>
    unfold readMoreAll
    split
    · contradiction
    · exact absurd rfl ends
    · rfl

theorem readMoreAny_ends {fuel : Nat} (some_ : 0 < fuel) {rest : List Lexeme} (ends : EndsAny rest) :
    readMoreAny fuel rest = some ([], rest) := by
  cases fuel with
  | zero => cases some_
  | succ fuel =>
    unfold readMoreAny
    split
    · contradiction
    · exact absurd rfl ends.2
    · rfl

theorem readTest_between (column : ColumnRef) (negated : Bool) (low high : Value) (rest : List Lexeme) :
    readTest column ((if negated then [.word .not, .word .between] else [.word .between]) ++
      .value low :: .word .and :: .value high :: rest) = some (.between column negated low high, rest) := by
  cases negated <;> rfl

theorem readTest_like (column : ColumnRef) (negated : Bool) (pattern : Value) (rest : List Lexeme) :
    readTest column ((if negated then [.word .not, .word .like] else [.word .like]) ++ .value pattern :: rest) =
      some (.like column negated pattern, rest) := by
  cases negated <;> rfl

theorem readTest_null (column : ColumnRef) (negated : Bool) (rest : List Lexeme) :
    readTest column ((if negated then [.word .is, .word .not, .word .null] else [.word .is, .word .null]) ++ rest) =
      some (.null column negated, rest) := by
  cases negated <;> rfl

theorem readTest_among (column : ColumnRef) (negated : Bool) {values : List Value} (filled : values ≠ [])
    (rest : List Lexeme) :
    readTest column ((if negated then [.word .not, .word .among] else [.word .among]) ++
      .opening :: (bound (Piece.separated ", " (values.map fun value => [.slot value])) ++ .closing :: rest)) =
      some (.among column negated values, rest) := by
  have inside := readValues_slots rest values filled
  cases negated <;> simp [readTest, readRange, inside]

mutual
theorem readOne_pieces : ∀ (formula : Formula), Sound formula → ∀ (fuel : Nat) (rest : List Lexeme),
    cost formula.pieces < fuel → readOne fuel (bound formula.pieces ++ rest) = some (grouped formula, rest)
  | .versus column relation value, sound, fuel, rest, enough => by
    have test := readOne_column sound (by omega : 0 < fuel) (.relation relation :: .value value :: rest) (by simp)
    simpa [Formula.pieces, bound_append, bound, ofFixed_relation, readTest, grouped] using test
  | .between column negated low high, sound, fuel, rest, enough => by
    have test := readOne_column sound (by omega : 0 < fuel)
      ((if negated then [.word .not, .word .between] else [.word .between]) ++
        .value low :: .word .and :: .value high :: rest) (by cases negated <;> simp)
    rw [readTest_between] at test
    simpa [Formula.pieces, bound_append, bound, ofFixed_between, ofFixed_and, grouped] using test
  | .among column negated values, sound, fuel, rest, enough => by
    have test := readOne_column sound.1 (by omega : 0 < fuel)
      ((if negated then [.word .not, .word .among] else [.word .among]) ++ .opening ::
        (bound (Piece.separated ", " (values.map fun value => [.slot value])) ++ .closing :: rest))
      (by cases negated <;> simp)
    rw [readTest_among column negated sound.2] at test
    simpa [Formula.pieces, Piece.slots, bound_append, bound, ofFixed_among, ofFixed_opening, ofFixed_closing,
      grouped] using test
  | .like column negated pattern, sound, fuel, rest, enough => by
    have test := readOne_column sound (by omega : 0 < fuel)
      ((if negated then [.word .not, .word .like] else [.word .like]) ++ .value pattern :: rest)
      (by cases negated <;> simp)
    rw [readTest_like] at test
    simpa [Formula.pieces, bound_append, bound, ofFixed_like, grouped] using test
  | .null column negated, sound, fuel, rest, enough => by
    have test := readOne_column sound (by omega : 0 < fuel)
      ((if negated then [.word .is, .word .not, .word .null] else [.word .is, .word .null]) ++ rest)
      (by cases negated <;> simp)
    rw [readTest_null] at test
    simpa [Formula.pieces, bound_append, bound, ofFixed_null, grouped] using test
  | .constant holds, _, fuel, rest, enough => by
    cases fuel with
    | zero => cases enough
    | succ fuel => cases holds <;> rfl
  | .any branches, sound, fuel, rest, enough => by
    have shape : bound (Formula.any branches).pieces ++ rest =
        .opening :: (bound (Formula.branchPieces branches) ++ .closing :: rest) := by
      simp [Formula.pieces, bound_append, bound, ofFixed_opening, ofFixed_closing]
    have size : cost (Formula.any branches).pieces = cost (Formula.branchPieces branches) + 8 := by
      simp [cost, Formula.pieces, bound_append, bound, ofFixed_opening, ofFixed_closing]
      omega
    cases fuel with
    | zero => cases enough
    | succ fuel =>
      have inside := readAny_branches branches sound.1 sound.2 fuel (.closing :: rest) (by omega)
        ⟨by simp [EndsAll], by simp⟩
      simp only [shape, readOne, inside, grouped]

theorem readAny_branches : ∀ (branches : List (List Formula)), branches ≠ [] → SoundBranches branches →
    ∀ (fuel : Nat) (rest : List Lexeme), cost (Formula.branchPieces branches) + 2 < fuel → EndsAny rest →
      readAny fuel (bound (Formula.branchPieces branches) ++ rest) = some (groupedBranches branches, rest)
  | [], filled, _, _, _, _, _ => absurd rfl filled
  | [branch], _, sound, fuel, rest, enough, ends => by
    have size : cost (Formula.branchPieces [branch]) = cost (Formula.bracketed branch) := by
      simp [Formula.branchPieces]
    cases fuel with
    | zero => cases enough
    | succ fuel =>
      have first := readAll_branch branch sound.1.1 sound.1.2 fuel rest (by omega) ends.1
      have last := readMoreAny_ends (by omega : 0 < fuel) ends
      simp [Formula.branchPieces, readAny, first, last, groupedBranches]
  | branch :: second :: more, _, sound, fuel, rest, enough, ends => by
    have shape : bound (Formula.branchPieces (branch :: second :: more)) ++ rest =
        bound (Formula.bracketed branch) ++ .word .or :: (bound (Formula.branchPieces (second :: more)) ++ rest) := by
      simp [Formula.branchPieces, bound_append, bound, ofFixed_or]
    have size : cost (Formula.branchPieces (branch :: second :: more)) =
        cost (Formula.bracketed branch) + cost (Formula.branchPieces (second :: more)) + 4 := by
      simp [cost, Formula.branchPieces, bound_append, bound, ofFixed_or]
      omega
    match fuel, enough with
    | fuel + 2, enough =>
      have first := readAll_branch branch sound.1.1 sound.1.2 (fuel + 1)
        (.word .or :: (bound (Formula.branchPieces (second :: more)) ++ rest)) (by omega) (by simp [EndsAll])
      have others := readAny_branches (second :: more) (by simp) sound.2 fuel rest (by omega) ends
      rw [shape, readAny, first]
      simp [readMoreAny, others, groupedBranches]

theorem readAll_branch : ∀ (branch : List Formula), branch ≠ [] → AllSound branch → ∀ (fuel : Nat)
    (rest : List Lexeme), cost (Formula.bracketed branch) + 1 < fuel → EndsAll rest →
      readAll fuel (bound (Formula.bracketed branch) ++ rest) = some (groupedBranch branch, rest)
  | [], filled, _, _, _, _, _ => absurd rfl filled
  | [formula], _, sound, fuel, rest, enough, ends => by
    have size : cost (Formula.bracketed [formula]) = cost formula.pieces := by simp [Formula.bracketed]
    cases fuel with
    | zero => cases enough
    | succ fuel =>
      have first := readOne_pieces formula sound.1 fuel rest (by omega)
      have last := readMoreAll_ends (by omega : 0 < fuel) ends
      simp [Formula.bracketed, readAll, first, last, groupedBranch]
  | formula :: second :: more, _, sound, fuel, rest, enough, ends => by
    have shape : bound (Formula.bracketed (formula :: second :: more)) ++ rest =
        .opening :: (bound formula.pieces ++ (bound (Formula.conjoined (second :: more)) ++ .closing :: rest)) := by
      simp [Formula.bracketed, bound_append, bound, ofFixed_opening, ofFixed_closing]
    have size : cost (Formula.bracketed (formula :: second :: more)) =
        cost formula.pieces + cost (Formula.conjoined (second :: more)) + 8 := by
      simp [cost, Formula.bracketed, bound_append, bound, ofFixed_opening, ofFixed_closing]
      omega
    match fuel, enough with
    | fuel + 4, enough =>
      have first := readOne_pieces formula sound.1 fuel
        (bound (Formula.conjoined (second :: more)) ++ .closing :: rest) (by omega)
      have others := readMoreAll_conjoined (second :: more) sound.2 fuel (.closing :: rest) (by omega)
        (by simp [EndsAll])
      have closed : readMoreAny (fuel + 1) (.closing :: rest) = some ([], .closing :: rest) :=
        readMoreAny_ends (by omega) ⟨by simp [EndsAll], by simp⟩
      have last := readMoreAll_ends (by omega : 0 < fuel + 3) ends
      rw [shape, readAll, readOne, readAny, readAll, first]
      simp [others, closed, last, groupedBranch]

theorem readMoreAll_conjoined : ∀ (formulas : List Formula), AllSound formulas → ∀ (fuel : Nat)
    (rest : List Lexeme), cost (Formula.conjoined formulas) < fuel → EndsAll rest →
      readMoreAll fuel (bound (Formula.conjoined formulas) ++ rest) = some (groupedAll formulas, rest)
  | [], _, fuel, rest, enough, ends => readMoreAll_ends (by omega) ends
  | formula :: more, sound, fuel, rest, enough, ends => by
    have shape : bound (Formula.conjoined (formula :: more)) ++ rest =
        .word .and :: (bound formula.pieces ++ (bound (Formula.conjoined more) ++ rest)) := by
      simp [Formula.conjoined, bound_append, bound, ofFixed_and]
    have size : cost (Formula.conjoined (formula :: more)) = cost formula.pieces + cost (Formula.conjoined more) + 4 := by
      simp [cost, Formula.conjoined, bound_append, bound, ofFixed_and]
      omega
    match fuel, enough with
    | fuel + 2, enough =>
      have first := readOne_pieces formula sound.1 fuel (bound (Formula.conjoined more) ++ rest) (by omega)
      have others := readMoreAll_conjoined more sound.2 fuel rest (by omega) ends
      rw [shape, readMoreAll, readAll, first]
      simp [others, groupedAll]
end

/-- The lexemes of formulas that AND joins are read as the one branch of a clause. -/
theorem readClause_allPieces {filter : List Formula} (filled : filter ≠ []) (sound : AllSound filter) :
    readClause (bound (Formula.allPieces filter)) = some [groupedAll filter] := by
  cases filter with
  | nil => exact absurd rfl filled
  | cons formula more =>
    generalize same : 4 * (bound (Formula.allPieces (formula :: more))).length = fuel
    have shape : bound (Formula.allPieces (formula :: more)) = bound formula.pieces ++ bound (Formula.conjoined more) :=
      bound_append _ _
    have size : fuel = cost formula.pieces + cost (Formula.conjoined more) := by
      simp only [← same, shape, List.length_append, cost]
      omega
    have first := readOne_pieces formula sound.1 (fuel + 1) (bound (Formula.conjoined more)) (by omega)
    have others := readMoreAll_conjoined more sound.2 (fuel + 1) [] (by omega) (by simp [EndsAll])
    have last : readMoreAny (fuel + 2) [] = some ([], []) := readMoreAny_ends (by omega) ⟨by simp [EndsAll], by simp⟩
    rw [List.append_nil] at others
    rw [readClause, same, shape, readAny, readAll, first]
    simp [others, last, groupedAll]

end RecordMapper.Clause
