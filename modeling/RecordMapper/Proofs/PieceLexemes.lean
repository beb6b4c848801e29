import RecordMapper.Proofs.ClauseLexemes

/-! The lexemes of a text that is made of pieces. The text is cut where its pieces meet, and the parameters,
handed out from left to right, come back to the placeholders that were written for them. -/

namespace RecordMapper.Clause

def ofFixed (text : String) : List Lexeme := (lexemes? .sqlite text.toList).getD []

/-- A text that every dialect reads alike, and that has no placeholder in it. -/
structure Fixed (text : String) : Prop where
  read : ∀ known, lexemes? known text.toList = some (ofFixed text)
  plain : ∀ written, .slot written ∉ ofFixed text

/-- Whether pieces cannot go on with the lexeme before them. -/
def Breaks : List Piece → Prop
  | [] => True
  | .fixed text :: _ => text.toList.head?.any isPunctuation
  | _ => False

/-- Pieces whose lexemes do not run into each other. -/
inductive Spaced : List Piece → Prop where
  | nil : Spaced []
  | settled {text rest} (fixed : Fixed text) (ends : text.toList.getLast?.any isPunctuation)
      (spaced : Spaced rest) : Spaced (.fixed text :: rest)
  | fixed {text rest} (fixed : Fixed text) (breaks : Breaks rest) (spaced : Spaced rest) :
      Spaced (.fixed text :: rest)
  | name {name rest} (identifier : Name.isIdentifier name.toList) (breaks : Breaks rest) (spaced : Spaced rest) :
      Spaced (.name name :: rest)
  | slot {rest} (value : Value) (breaks : Breaks rest) (spaced : Spaced rest) : Spaced (.slot value :: rest)

/-- The lexemes of pieces whose placeholders are numbered from `index`. -/
def written (dialect : Dialect) : Nat → List Piece → List Lexeme
  | _, [] => []
  | index, .fixed text :: rest => ofFixed text ++ written dialect index rest
  | index, .name name :: rest => .name name :: written dialect index rest
  | index, .slot _ :: rest => .slot (dialect.placeholder index) :: written dialect (index + 1) rest
  | index, _ :: rest => written dialect index rest

/-- The lexemes of pieces with the values where their placeholders stand. -/
def bound : List Piece → List Lexeme
  | [] => []
  | .fixed text :: rest => ofFixed text ++ bound rest
  | .name name :: rest => .name name :: bound rest
  | .slot value :: rest => .value value :: bound rest
  | _ :: rest => bound rest

def slots : List Lexeme → List String
  | [] => []
  | .slot text :: rest => text :: slots rest
  | _ :: rest => slots rest

/-- Puts each parameter in the place of the placeholder with its rank; there have to be as many of these. -/
def bind : List Value → List Lexeme → Option (List Lexeme)
  | [], [] => some []
  | _ :: _, [] => none
  | [], .slot _ :: _ => none
  | value :: values, .slot _ :: rest => (bind values rest).map (.value value :: ·)
  | values, lexeme :: rest => (bind values rest).map (lexeme :: ·)

/-- The characters of pieces whose placeholders are numbered from `index`. -/
def letters (dialect : Dialect) (index : Nat) (pieces : List Piece) : List Char :=
  (Piece.texts dialect index pieces).flatMap String.toList

theorem toList_join (dialect : Dialect) (pieces : List Piece) :
    (Piece.join dialect pieces).toList = letters dialect 1 pieces := String.toList_join

theorem letters_cons (dialect : Dialect) (index : Nat) (piece : Piece) (rest : List Piece) :
    letters dialect index (piece :: rest) =
      (piece.text dialect index).toList ++
        letters dialect (if piece.value?.isSome then index + 1 else index) rest := by
  simp only [letters, Piece.texts, List.flatMap_cons]

theorem letters_breaks (dialect : Dialect) (index : Nat) {pieces : List Piece} (breaks : Breaks pieces) :
    (letters dialect index pieces).head?.all isPunctuation := by
  match pieces, breaks with
  | [], _ => rfl
  | .fixed text :: rest, breaks =>
    obtain ⟨c, first, mark⟩ := (Option.any_eq_true _ _).mp breaks
    obtain ⟨more, shape⟩ := List.head?_eq_some_iff.mp first
    simp [letters_cons, Piece.text, shape, mark]

theorem lexemes_letters (known : Known) {pieces : List Piece} (spaced : Spaced pieces) (index : Nat) :
    lexemes? known (letters known.dialect index pieces) = some (written known.dialect index pieces) := by
  induction spaced generalizing index with
  | nil => rfl
  | settled fixed ends spaced ih =>
    rw [letters_cons]
    exact lexemes_append (fixed.read known) (ih index) (Or.inl ends)
  | fixed fixed breaks spaced ih =>
    rw [letters_cons]
    exact lexemes_append (fixed.read known) (ih index) (Or.inr (letters_breaks _ _ breaks))
  | name identifier breaks spaced ih =>
    rw [letters_cons]
    exact lexemes_append (lexemes_name identifier known) (ih index) (Or.inr (letters_breaks _ _ breaks))
  | slot _ breaks spaced ih =>
    rw [letters_cons]
    exact lexemes_append (lexemes_placeholder known index) (ih (index + 1)) (Or.inr (letters_breaks _ _ breaks))

theorem slots_append {plain : List Lexeme} (free : ∀ text, .slot text ∉ plain) (rest : List Lexeme) :
    slots (plain ++ rest) = slots rest := by
  induction plain with
  | nil => rfl
  | cons lexeme plain ih =>
    have others := ih fun text member => free text (List.mem_cons_of_mem _ member)
    cases lexeme with
    | slot text => exact absurd List.mem_cons_self (free text)
    | _ => simpa only [List.cons_append, slots] using others

theorem bind_append {plain : List Lexeme} (free : ∀ text, .slot text ∉ plain) (values : List Value)
    (rest : List Lexeme) : bind values (plain ++ rest) = (bind values rest).map (plain ++ ·) := by
  induction plain with
  | nil => simp
  | cons lexeme plain ih =>
    have others := ih fun text member => free text (List.mem_cons_of_mem _ member)
    cases lexeme with
    | slot text => exact absurd List.mem_cons_self (free text)
    | _ => cases values <;> simp [bind, others, Function.comp_def]

theorem slots_written (dialect : Dialect) {pieces : List Piece} (spaced : Spaced pieces) (index : Nat) :
    slots (written dialect index pieces) =
      (List.range (Piece.params pieces).length).map fun i => dialect.placeholder (index + i) := by
  induction spaced generalizing index with
  | nil => rfl
  | settled fixed _ _ ih | fixed fixed _ _ ih =>
    rw [written, slots_append fixed.plain, ih index]
    rfl
  | name _ _ _ ih => exact ih index
  | @slot rest value _ _ ih =>
    have length : (Piece.params (.slot value :: rest)).length = (Piece.params rest).length + 1 := rfl
    simp only [written, slots, ih (index + 1), length, List.range_succ_eq_map, List.map_cons, List.map_map]
    simp [Function.comp_def, Nat.add_comm, Nat.add_left_comm]

/-- Handing out the parameters from left to right puts every value where it was written. -/
theorem bind_written (dialect : Dialect) {pieces : List Piece} (spaced : Spaced pieces) (index : Nat) :
    bind (Piece.params pieces) (written dialect index pieces) = some (bound pieces) := by
  induction spaced generalizing index with
  | nil => rfl
  | @settled text rest fixed _ _ ih | @fixed text rest fixed _ _ ih =>
    have same : Piece.params (.fixed text :: rest) = Piece.params rest := rfl
    rw [written, bind_append fixed.plain, same, ih index]
    rfl
  | @name name rest _ _ _ ih =>
    have same : Piece.params (.name name :: rest) = Piece.params rest := rfl
    rw [written, same]
    cases values : Piece.params rest <;> simp [bind, ← values, ih index, bound]
  | @slot rest value _ _ ih =>
    have values : Piece.params (.slot value :: rest) = value :: Piece.params rest := rfl
    simp [written, values, bind, ih (index + 1), bound]

end RecordMapper.Clause
