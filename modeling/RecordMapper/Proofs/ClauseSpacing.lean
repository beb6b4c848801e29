import RecordMapper.Proofs.PieceLexemes

/-! The pieces of a WHERE clause do not run into each other. Names and parameters have fixed text on both sides,
and that text begins and ends with a blank, a bracket, a comma or a point. -/

namespace RecordMapper.Clause

/-- A column that can be written: it has a name, and its names are identifiers. -/
structure Legible (column : ColumnRef) : Prop where
  named : column.parts ≠ []
  identifiers : ∀ part ∈ column.parts, Name.isIdentifier part.toList

mutual
/-- A formula without an empty set, choice or branch. -/
def Sound : Formula → Prop
  | .versus column _ _ | .between column _ _ _ | .like column _ _ | .null column _ => Legible column
  | .among column _ values => Legible column ∧ values ≠ []
  | .constant _ => True
  | .any branches => branches ≠ [] ∧ SoundBranches branches

def SoundBranches : List (List Formula) → Prop
  | [] => True
  | branch :: rest => (branch ≠ [] ∧ AllSound branch) ∧ SoundBranches rest

def AllSound : List Formula → Prop
  | [] => True
  | formula :: rest => Sound formula ∧ AllSound rest
end

theorem fixed_of_read {text : String} (lexemes : List Lexeme)
    (read : ∀ known, lexemes? known text.toList = some lexemes) (plain : ∀ written, .slot written ∉ lexemes) :
    Fixed text := by
  have same : ofFixed text = lexemes := by simp [ofFixed, read]
  exact ⟨by simpa only [same] using read, by simpa only [same] using plain⟩

theorem fixed_relation (relation : Relation) : Fixed (" " ++ relation.symbol ++ " ") := by
  apply fixed_of_read [.relation relation]
  · intro known
    cases known <;> cases relation <;> rfl
  · simp

theorem fixed_between (negated : Bool) : Fixed (if negated then " NOT BETWEEN " else " BETWEEN ") := by
  apply fixed_of_read (if negated then [.word .not, .word .between] else [.word .between])
  · intro known
    cases known <;> cases negated <;> rfl
  · cases negated <;> simp

theorem fixed_among (negated : Bool) : Fixed (if negated then " NOT IN " else " IN ") := by
  apply fixed_of_read (if negated then [.word .not, .word .among] else [.word .among])
  · intro known
    cases known <;> cases negated <;> rfl
  · cases negated <;> simp

theorem fixed_like (negated : Bool) : Fixed (if negated then " NOT LIKE " else " LIKE ") := by
  apply fixed_of_read (if negated then [.word .not, .word .like] else [.word .like])
  · intro known
    cases known <;> cases negated <;> rfl
  · cases negated <;> simp

theorem fixed_null (negated : Bool) : Fixed (if negated then " IS NOT NULL" else " IS NULL") := by
  apply fixed_of_read (if negated then [.word .is, .word .not, .word .null] else [.word .is, .word .null])
  · intro known
    cases known <;> cases negated <;> rfl
  · cases negated <;> simp

theorem fixed_constant (holds : Bool) : Fixed (if holds then "1 = 1" else "1 = 0") := by
  apply fixed_of_read [.digit 1, .relation .eq, .digit (if holds then 1 else 0)]
  · intro known
    cases known <;> cases holds <;> rfl
  · simp

theorem fixed_and : Fixed " AND " :=
  fixed_of_read [.word .and] (fun known => by cases known <;> rfl) (by simp)

theorem fixed_or : Fixed " OR " :=
  fixed_of_read [.word .or] (fun known => by cases known <;> rfl) (by simp)

theorem fixed_opening : Fixed "(" :=
  fixed_of_read [.opening] (fun known => by cases known <;> rfl) (by simp)

theorem fixed_closing : Fixed ")" :=
  fixed_of_read [.closing] (fun known => by cases known <;> rfl) (by simp)

theorem fixed_comma : Fixed ", " :=
  fixed_of_read [.comma] (fun known => by cases known <;> rfl) (by simp)

theorem fixed_point : Fixed "." :=
  fixed_of_read [.point] (fun known => by cases known <;> rfl) (by simp)

theorem spaced_names {rest : List Piece} (breaks : Breaks rest) (spaced : Spaced rest) :
    ∀ parts : List String, (∀ part ∈ parts, Name.isIdentifier part.toList) →
      Spaced (Piece.separated "." (parts.map fun part => [.name part]) ++ rest)
  | [], _ => spaced
  | [part], identifiers => .name (identifiers part (by simp)) breaks spaced
  | part :: second :: more, identifiers => by
    have others := spaced_names breaks spaced (second :: more) fun part inside => identifiers part (by simp [inside])
    exact .name (identifiers part (by simp)) rfl (.settled fixed_point rfl others)

theorem spaced_column {column : ColumnRef} (legible : Legible column) {rest : List Piece} (breaks : Breaks rest)
    (spaced : Spaced rest) : Spaced (column.pieces ++ rest) :=
  spaced_names breaks spaced column.parts legible.identifiers

theorem spaced_values {rest : List Piece} (breaks : Breaks rest) (spaced : Spaced rest) :
    ∀ values : List Value, Spaced (Piece.separated ", " (values.map fun value => [.slot value]) ++ rest)
  | [] => spaced
  | [value] => .slot value breaks spaced
  | value :: second :: more =>
    .slot value rfl (.settled fixed_comma rfl (spaced_values breaks spaced (second :: more)))

theorem spaced_slots (values : List Value) {rest : List Piece} (spaced : Spaced rest) :
    Spaced (Piece.slots values ++ rest) := by
  have closed : Spaced (.fixed ")" :: rest) := .settled fixed_closing rfl spaced
  have inside := spaced_values (show Breaks (.fixed ")" :: rest) from rfl) closed values
  simpa [Piece.slots] using Spaced.settled fixed_opening rfl inside

mutual
theorem spaced_pieces : ∀ (formula : Formula), Sound formula → ∀ {rest : List Piece}, Breaks rest → Spaced rest →
    Spaced (formula.pieces ++ rest)
  | .versus column relation value, sound, rest, breaks, spaced => by
    have starts : Breaks (.fixed (" " ++ relation.symbol ++ " ") :: .slot value :: rest) := by cases relation <;> rfl
    have ends : (" " ++ relation.symbol ++ " ").toList.getLast?.any isPunctuation := by cases relation <;> rfl
    have test := Spaced.settled (fixed_relation relation) ends (.slot value breaks spaced)
    simpa only [Formula.pieces, List.append_assoc, List.cons_append, List.nil_append]
      using spaced_column sound starts test
  | .between column negated low high, sound, rest, breaks, spaced => by
    have upper := Spaced.settled fixed_and rfl (.slot high breaks spaced)
    have starts : Breaks (.fixed (if negated then " NOT BETWEEN " else " BETWEEN ") :: .slot low ::
        .fixed " AND " :: .slot high :: rest) := by cases negated <;> rfl
    have ends : (if negated then " NOT BETWEEN " else " BETWEEN ").toList.getLast?.any isPunctuation := by
      cases negated <;> rfl
    have lower : Spaced (.slot low :: .fixed " AND " :: .slot high :: rest) := .slot low rfl upper
    have test := Spaced.settled (fixed_between negated) ends lower
    simpa only [Formula.pieces, List.append_assoc, List.cons_append, List.nil_append]
      using spaced_column sound starts test
  | .among column negated values, sound, rest, breaks, spaced => by
    have starts : Breaks (.fixed (if negated then " NOT IN " else " IN ") :: (Piece.slots values ++ rest)) := by
      cases negated <;> rfl
    have ends : (if negated then " NOT IN " else " IN ").toList.getLast?.any isPunctuation := by
      cases negated <;> rfl
    have test := Spaced.settled (fixed_among negated) ends (spaced_slots values spaced)
    simpa only [Formula.pieces, List.append_assoc, List.cons_append, List.nil_append]
      using spaced_column sound.1 starts test
  | .like column negated pattern, sound, rest, breaks, spaced => by
    have starts : Breaks (.fixed (if negated then " NOT LIKE " else " LIKE ") :: .slot pattern :: rest) := by
      cases negated <;> rfl
    have ends : (if negated then " NOT LIKE " else " LIKE ").toList.getLast?.any isPunctuation := by
      cases negated <;> rfl
    have test := Spaced.settled (fixed_like negated) ends (.slot pattern breaks spaced)
    simpa only [Formula.pieces, List.append_assoc, List.cons_append, List.nil_append]
      using spaced_column sound starts test
  | .null column negated, sound, rest, breaks, spaced => by
    have starts : Breaks (.fixed (if negated then " IS NOT NULL" else " IS NULL") :: rest) := by
      cases negated <;> rfl
    have test := Spaced.fixed (fixed_null negated) breaks spaced
    simpa only [Formula.pieces, List.append_assoc, List.cons_append, List.nil_append]
      using spaced_column sound starts test
  | .constant holds, _, _, breaks, spaced => .fixed (fixed_constant holds) breaks spaced
  | .any branches, sound, rest, breaks, spaced => by
    have closed : Spaced (.fixed ")" :: rest) := .settled fixed_closing rfl spaced
    have inside := spaced_branches branches sound.2 (show Breaks (.fixed ")" :: rest) from rfl) closed
    simpa [Formula.pieces] using Spaced.settled fixed_opening rfl inside

theorem spaced_branches : ∀ (branches : List (List Formula)), SoundBranches branches → ∀ {rest : List Piece},
    Breaks rest → Spaced rest → Spaced (Formula.branchPieces branches ++ rest)
  | [], _, _, _, spaced => spaced
  | [branch], sound, _, breaks, spaced => by
    simpa [Formula.branchPieces] using spaced_branch branch sound.1.2 breaks spaced
  | branch :: second :: more, sound, rest, breaks, spaced => by
    have others := spaced_branches (second :: more) sound.2 breaks spaced
    have starts : Breaks (.fixed " OR " :: (Formula.branchPieces (second :: more) ++ rest)) := rfl
    have joined := spaced_branch branch sound.1.2 starts (Spaced.settled fixed_or rfl others)
    simpa [Formula.branchPieces] using joined

theorem spaced_branch : ∀ (branch : List Formula), AllSound branch → ∀ {rest : List Piece},
    Breaks rest → Spaced rest → Spaced (Formula.bracketed branch ++ rest)
  | [], _, _, _, spaced => spaced
  | [formula], sound, _, breaks, spaced => by
    simpa [Formula.bracketed] using spaced_pieces formula sound.1 breaks spaced
  | formula :: second :: more, sound, rest, breaks, spaced => by
    have closed : Spaced (.fixed ")" :: rest) := .settled fixed_closing rfl spaced
    obtain ⟨others, joins⟩ :=
      spaced_conjoined (second :: more) sound.2 (show Breaks (.fixed ")" :: rest) from rfl) closed
    have inside := spaced_pieces formula sound.1 joins others
    simpa [Formula.bracketed] using Spaced.settled fixed_opening rfl inside

theorem spaced_conjoined : ∀ (formulas : List Formula), AllSound formulas → ∀ {rest : List Piece},
    Breaks rest → Spaced rest →
      Spaced (Formula.conjoined formulas ++ rest) ∧ Breaks (Formula.conjoined formulas ++ rest)
  | [], _, _, breaks, spaced => ⟨spaced, breaks⟩
  | formula :: more, sound, rest, breaks, spaced => by
    obtain ⟨others, joins⟩ := spaced_conjoined more sound.2 breaks spaced
    have inside := spaced_pieces formula sound.1 joins others
    exact ⟨by simpa [Formula.conjoined] using Spaced.settled fixed_and rfl inside, rfl⟩
end

end RecordMapper.Clause
