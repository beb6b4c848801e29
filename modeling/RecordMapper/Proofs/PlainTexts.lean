import RecordMapper.Proofs.ClauseSpacing
import RecordMapper.Proofs.Templates

/-! Texts in which nothing is left to chance: cut into lexemes, they have only fixed words and marks, given numbers,
placeholders and quoted identifiers. Pieces that do not run into each other have such texts around their trusted
expressions. -/

namespace RecordMapper.Clause

/-- Words of statements besides those of a clause. -/
def keywords : List String :=
  ["SELECT", "FROM", "WHERE", "GROUP", "BY", "ORDER", "ASC", "DESC", "LIMIT", "OFFSET", "INSERT", "INTO", "VALUES",
    "UPDATE", "SET", "CASE", "WHEN", "THEN", "END", "DELETE", "COUNT", "AS", "_one", "_cnt", "LEFT", "RIGHT", "INNER",
    "JOIN", "ON"]

/-- A lexeme that is the same in every text, or one of the numbers, a placeholder or a quoted identifier. -/
inductive Plain (numbers : List Nat) : Lexeme → Prop where
  | opening : Plain numbers .opening
  | closing : Plain numbers .closing
  | comma : Plain numbers .comma
  | point : Plain numbers .point
  | word (word : Word) : Plain numbers (.word word)
  | relation (relation : Relation) : Plain numbers (.relation relation)
  | digit {n : Nat} (small : n < 2) : Plain numbers (.digit n)
  | keyword {letters : List Char} (fixed : String.ofList letters ∈ keywords) : Plain numbers (.stray letters)
  | number {n : Nat} (given : n ∈ numbers) : Plain numbers (.stray (toString n).toList)
  | slot : Plain numbers (.slot "?")
  | name {text : String} (identifier : Name.isIdentifier text.toList) : Plain numbers (.name text)

/-- A text that is cut into plain lexemes, and ends outside of a name. -/
def PlainText (known : Known) (numbers : List Nat) (text : String) : Prop :=
  ∃ lexemes, lexemes? known text.toList = some lexemes ∧ ∀ lexeme ∈ lexemes, Plain numbers lexeme

def isFixed : Lexeme → Bool
  | .opening | .closing | .comma | .point | .word _ | .relation _ => true
  | .digit n => n < 2
  | .stray letters => keywords.contains (String.ofList letters)
  | _ => false

variable {known : Known} {numbers : List Nat}

theorem plain_of_fixed {lexeme : Lexeme} (fixed : isFixed lexeme = true) : Plain numbers lexeme := by
  cases lexeme with
  | opening => exact .opening
  | closing => exact .closing
  | comma => exact .comma
  | point => exact .point
  | word word => exact .word word
  | relation relation => exact .relation relation
  | digit n => exact .digit (by simpa [isFixed] using fixed)
  | stray letters => exact .keyword (by simpa [isFixed] using fixed)
  | name _ | slot _ | value _ => cases fixed

theorem plainText_of_fixed {text : String}
    (check : (lexemes? known text.toList).any (fun lexemes => lexemes.all isFixed) = true) : PlainText known numbers text := by
  obtain ⟨lexemes, read, fixed⟩ := (Option.any_eq_true _ _).mp check
  refine ⟨lexemes, read, fun lexeme member => ?_⟩
  exact plain_of_fixed (List.all_eq_true.mp fixed lexeme member)

theorem PlainText.append {first second : String} (before : PlainText known numbers first)
    (after : PlainText known numbers second)
    (apart : first.toList.getLast?.any isPunctuation ∨ second.toList.head?.all isPunctuation) :
    PlainText known numbers (first ++ second) := by
  obtain ⟨found, read, plain⟩ := before
  obtain ⟨more, rest, others⟩ := after
  refine ⟨found ++ more, ?_, ?_⟩
  · rw [String.toList_append]
    exact lexemes_append read rest apart
  · intro lexeme member
    rcases List.mem_append.mp member with inside | inside
    · exact plain lexeme inside
    · exact others lexeme inside

theorem plainText_name {name : String} (identifier : Name.isIdentifier name.toList) :
    PlainText known numbers (known.dialect.quote name) := by
  refine ⟨_, lexemes_name identifier known, ?_⟩
  intro lexeme member
  rw [List.mem_singleton.mp member]
  exact .name identifier

theorem plain_vocabulary : ∀ entry ∈ vocabulary, isFixed entry.2 = true := by decide

theorem digit_apart (known : Known) {c : Char} (digit : c.isDigit) : ¬ (isPunctuation c ∨ c = known.opening) := by
  rintro (mark | rfl)
  · exact digit_plain digit (.inl mark)
  · cases known <;> simp [Known.opening] at digit

theorem lexemes_digits {c : Char} {more : List Char} (digits : ∀ d ∈ c :: more, d.isDigit) :
    lexemes? known (c :: more) = some [ofRun known (c :: more)] := by
  have first := digit_apart known (digits c List.mem_cons_self)
  simp only [isPunctuation, not_or] at first
  have begun : step known .idle c = ([], .run [c]) := by
    cases mark : punctuation? c with
    | none => simp [step, start, mark, first.2]
    | some _ => simp [mark] at first
  have rest : scan known (.run [c]) more = ([], .run ([c] ++ more)) := by
    apply scan_run
    intro d member
    exact digit_apart known (digits d (List.mem_cons_of_mem c member))
  simp [lexemes?, scan, begun, rest, pending?]

theorem plain_ofRun {letters : List Char} (unmarked : letters.head? ≠ some known.slotMark)
    (stray : Plain numbers (.stray letters)) : Plain numbers (ofRun known letters) := by
  rw [ofRun, if_neg unmarked]
  cases found : vocabulary.lookup (String.ofList letters) with
  | none => exact stray
  | some lexeme =>
    obtain ⟨before, after, split, _⟩ := List.lookup_eq_some_iff.mp found
    have member : (String.ofList letters, lexeme) ∈ vocabulary := by
      rw [split]
      exact List.mem_append_right _ List.mem_cons_self
    exact plain_of_fixed (plain_vocabulary _ member)

/-- A number is a run of its own. -/
theorem plainText_number (real : known.slotMark = '?') {n : Nat} (given : n ∈ numbers) :
    PlainText known numbers (toString n) := by
  have digits : ∀ d ∈ (toString n).toList, d.isDigit := by
    intro d member
    have shape : (toString n).toList = Nat.toDigits 10 n := by simp [Nat.toString_eq_repr]
    rw [shape] at member
    exact Nat.isDigit_of_mem_toDigits (by decide) (by decide) member
  have stray := Plain.number given
  cases shape : (toString n).toList with
  | nil =>
    simp at shape
  | cons c more =>
    rw [shape] at digits stray
    -- 0 and 1 are in the vocabulary, as digits; any other number stays a run
    refine ⟨_, by rw [shape]; exact lexemes_digits digits, ?_⟩
    intro lexeme member
    rw [List.mem_singleton.mp member]
    apply plain_ofRun _ stray
    rw [real]
    intro same
    cases Option.some.inj same
    simpa using digits '?' List.mem_cons_self

/-- Whether pieces begin with an expression, a limit or a mark, so that no lexeme before them goes on. -/
def Parts : List Piece → Prop
  | .raw _ :: _ | .limit _ :: _ => True
  | pieces => Breaks pieces

def isTrusted : Piece → Bool
  | .raw _ => true
  | _ => false

/-- Pieces whose texts are plain, besides the trusted ones, and do not run into each other. -/
inductive Guarded (known : Known) (numbers : List Nat) : List Piece → Prop where
  | nil : Guarded known numbers []
  | trusted {rest} (text : String) (guarded : Guarded known numbers rest) : Guarded known numbers (.raw text :: rest)
  | piece {piece rest} (ours : isTrusted piece = false) (plain : PlainText known numbers (piece.text known.dialect 1))
      (apart : (piece.text known.dialect 1).toList.getLast?.any isPunctuation ∨ Parts rest)
      (guarded : Guarded known numbers rest) : Guarded known numbers (piece :: rest)

/-- Pieces cut at their trusted expressions. -/
def own (known : Known) (pieces : List Piece) : Template := .ofPieces known.dialect isTrusted pieces

theorem own_cons {piece : Piece} (ours : isTrusted piece = false) (rest : List Piece) :
    own known (piece :: rest) =
      ⟨piece.text known.dialect 1 ++ (own known rest).opening, (own known rest).rest⟩ := by
  simp [own, Template.ofPieces, ours]

theorem limit_starts (known : Known) (plan : PagePlan) :
    ((Piece.limit plan).text known.dialect 1).toList.head? = some ' ' := by
  cases known <;> simp [Piece.text, Known.dialect, Dialect.mysql, Dialect.sqlite, Dialect.numbered]

theorem own_parts {pieces : List Piece} (parts : Parts pieces) :
    (own known pieces).opening.toList.head?.all isPunctuation := by
  match pieces, parts with
  | [], _ => rfl
  | .raw _ :: _, _ => rfl
  | .limit plan :: rest, _ =>
    obtain ⟨more, shape⟩ := List.head?_eq_some_iff.mp (limit_starts known plan)
    rw [own_cons rfl, String.toList_append, shape]
    rfl
  | .fixed text :: rest, breaks =>
    obtain ⟨c, first, mark⟩ := (Option.any_eq_true _ _).mp breaks
    obtain ⟨more, shape⟩ := List.head?_eq_some_iff.mp first
    rw [own_cons rfl, Piece.text, String.toList_append, shape]
    simpa using mark

theorem plainText_empty : PlainText known numbers "" := ⟨[], rfl, by simp⟩

theorem plainText_slot (real : known.slotMark = '?') : PlainText known numbers (known.dialect.placeholder 1) := by
  refine ⟨_, lexemes_placeholder known 1, ?_⟩
  intro lexeme member
  rw [List.mem_singleton.mp member]
  cases known with
  | mysql | sqlite => exact .slot
  | numbered maxParams => cases real

/-- Between their trusted expressions, guarded pieces have plain texts. -/
theorem Guarded.plain {pieces : List Piece} (guarded : Guarded known numbers pieces) :
    ∀ text ∈ (own known pieces).opening :: (own known pieces).rest, PlainText known numbers text := by
  induction guarded with
  | nil => simpa [own, Template.ofPieces, Template.plain] using plainText_empty
  | trusted text _ ih => exact List.forall_mem_cons.mpr ⟨plainText_empty, ih⟩
  | piece ours plain apart _ ih =>
    rw [own_cons ours]
    obtain ⟨first, others⟩ := List.forall_mem_cons.mp ih
    exact List.forall_mem_cons.mpr ⟨plain.append first (apart.imp_right own_parts), others⟩

variable (known numbers) in
/-- Pieces that can stand before whatever begins apart. -/
def Flows (pieces : List Piece) : Prop := ∀ rest, Parts rest → Guarded known numbers rest → Guarded known numbers (pieces ++ rest)

/-- Pieces that begin apart, or are not there. -/
def Opens (pieces : List Piece) : Prop := ∀ rest, Parts rest → Parts (pieces ++ rest)

theorem opens_nil : Opens [] := fun _ parts => parts

theorem opens_fixed {text : String} (begins : text.toList.head?.any isPunctuation) (rest : List Piece) :
    Opens (.fixed text :: rest) := fun _ _ => begins

theorem Opens.append {first second : List Piece} (before : Opens first) (after : Opens second) : Opens (first ++ second) := by
  intro rest parts
  rw [List.append_assoc]
  exact before _ (after rest parts)

theorem opens_of_breaks {pieces : List Piece} (breaks : Breaks pieces) : Opens pieces := by
  match pieces, breaks with
  | [], _ => exact opens_nil
  | .fixed text :: rest, begins => exact opens_fixed begins rest

theorem flows_nil : Flows known numbers [] := fun _ _ guarded => guarded

theorem flows_trusted (text : String) : Flows known numbers [.raw text] := fun _ _ guarded => .trusted text guarded

theorem flows_piece {piece : Piece} (ours : isTrusted piece = false)
    (plain : PlainText known numbers (piece.text known.dialect 1)) : Flows known numbers [piece] :=
  fun _ parts guarded => .piece ours plain (.inr parts) guarded

theorem flows_fixed {text : String} (plain : PlainText known numbers text) : Flows known numbers [.fixed text] :=
  fun _ parts guarded => .piece rfl plain (.inr parts) guarded

theorem flows_name {name : String} (identifier : Name.isIdentifier name.toList) : Flows known numbers [.name name] :=
  flows_piece rfl (plainText_name identifier)

theorem flows_slot (real : known.slotMark = '?') (value : Value) : Flows known numbers [.slot value] :=
  flows_piece rfl (plainText_slot real)

theorem Flows.append {first second : List Piece} (before : Flows known numbers first) (after : Flows known numbers second)
    (opens : Opens second) : Flows known numbers (first ++ second) := by
  intro rest parts guarded
  rw [List.append_assoc]
  exact before _ (opens rest parts) (after rest parts guarded)

/-- A text that ends with a mark can stand before anything. -/
theorem Flows.after {text : String} {pieces : List Piece} (flows : Flows known numbers pieces)
    (plain : PlainText known numbers text) (ends : text.toList.getLast?.any isPunctuation) :
    Flows known numbers (.fixed text :: pieces) :=
  fun rest parts guarded => .piece rfl plain (.inl ends) (flows rest parts guarded)

variable (known numbers) in
/-- Pieces that can stand between any others. -/
structure Follows (pieces : List Piece) : Prop where
  flows : Flows known numbers pieces
  opens : Opens pieces

theorem follows_nil : Follows known numbers [] := ⟨flows_nil, opens_nil⟩

theorem Follows.append {first second : List Piece} (before : Follows known numbers first)
    (after : Follows known numbers second) : Follows known numbers (first ++ second) :=
  ⟨before.flows.append after.flows after.opens, before.opens.append after.opens⟩

theorem Flows.followed {first second : List Piece} (before : Flows known numbers first)
    (after : Follows known numbers second) : Flows known numbers (first ++ second) :=
  before.append after.flows after.opens

theorem Flows.between {text : String} {pieces : List Piece} (flows : Flows known numbers pieces)
    (plain : PlainText known numbers text) (ends : text.toList.getLast?.any isPunctuation)
    (begins : text.toList.head?.any isPunctuation) : Follows known numbers (.fixed text :: pieces) :=
  ⟨flows.after plain ends, opens_fixed begins pieces⟩

theorem flows_separated {separator : String} (plain : PlainText known numbers separator)
    (begins : separator.toList.head?.any isPunctuation) (ends : separator.toList.getLast?.any isPunctuation) :
    ∀ {groups : List (List Piece)}, (∀ group ∈ groups, Flows known numbers group) →
      Flows known numbers (Piece.separated separator groups)
  | [], _ => flows_nil
  | [_], each => each _ List.mem_cons_self
  | group :: second :: rest, each => by
    obtain ⟨first, others⟩ := List.forall_mem_cons.mp each
    have later := (flows_separated plain begins ends others).after plain ends
    exact first.append later (opens_fixed begins _)

/-- Whether the fixed text of a piece, if it has one, is made of fixed lexemes. -/
def isChecked (known : Known) : Piece → Bool
  | .fixed text => (lexemes? known text.toList).any fun lexemes => lexemes.all isFixed
  | _ => true

/-- The fixed texts of statements, besides those of formulas. -/
def phrases : List String :=
  ["SELECT ", " FROM ", " WHERE ", " GROUP BY ", " ORDER BY ", " ASC", " DESC", "1", "1 AS _one", "SELECT COUNT(1) FROM ",
    "SELECT COUNT(1) FROM (", ") _cnt", " LEFT JOIN ", " RIGHT JOIN ", " INNER JOIN ", " ON ", "INSERT INTO ", " (",
    ") VALUES ", "UPDATE ", " SET ", " = ", "CASE ", " WHEN ", " THEN ", " END", " IN ", "DELETE FROM ", " LIMIT ", " OFFSET ", ".",
    ", ", " "]

theorem plainText_phrase (real : known.slotMark = '?') {text : String} (phrase : text ∈ phrases) :
    PlainText known numbers text := by
  have checked : phrases.all (fun text => isChecked known (.fixed text)) = true := by
    cases known with
    | mysql | sqlite => decide +kernel
    | numbered _ => cases real
  exact plainText_of_fixed (List.all_eq_true.mp checked text phrase)

theorem flows_spaced (real : known.slotMark = '?') {pieces : List Piece} (spaced : Spaced pieces)
    (checked : pieces.all (isChecked known) = true) : Flows known numbers pieces := by
  induction spaced with
  | nil => exact flows_nil
  | settled fixed ends _ ih =>
    rw [List.all_cons, Bool.and_eq_true] at checked
    exact (ih checked.2).after (plainText_of_fixed checked.1) ends
  | fixed fixed breaks _ ih =>
    rw [List.all_cons, Bool.and_eq_true] at checked
    exact (flows_fixed (plainText_of_fixed checked.1)).append (ih checked.2) (opens_of_breaks breaks)
  | name identifier breaks _ ih => exact (flows_name identifier).append (ih checked) (opens_of_breaks breaks)
  | slot value breaks _ ih => exact (flows_slot real value).append (ih checked) (opens_of_breaks breaks)

theorem checked_separated {separator : String} (checked : isChecked known (.fixed separator) = true) :
    ∀ groups : List (List Piece), (Piece.separated separator groups).all (isChecked known) =
      groups.all fun group => group.all (isChecked known)
  | [] => rfl
  | [group] => by simp [Piece.separated]
  | group :: second :: rest => by
    have later := checked_separated checked (second :: rest)
    rw [List.all_cons] at later
    simp [Piece.separated, checked, later]

theorem checked_column (column : ColumnRef) : column.pieces.all (isChecked known) = true := by
  rw [ColumnRef.pieces, checked_separated (by cases known <;> rfl)]
  simp [isChecked]

theorem checked_slots (values : List Value) : (Piece.slots values).all (isChecked known) = true := by
  have inside : (Piece.separated ", " (values.map fun value => [.slot value])).all (isChecked known) = true := by
    rw [checked_separated (by cases known <;> rfl)]
    simp [isChecked]
  rw [Piece.slots, List.all_cons, List.all_append, inside]
  cases known <;> rfl

mutual
theorem checked_pieces : ∀ formula : Formula, formula.pieces.all (isChecked known) = true
  | .versus column relation _ => by
    rw [Formula.pieces, List.all_append, checked_column]
    cases known <;> cases relation <;> rfl
  | .between column negated _ _ => by
    rw [Formula.pieces, List.all_append, checked_column]
    cases known <;> cases negated <;> rfl
  | .among column negated values => by
    rw [Formula.pieces, List.all_append, checked_column, List.all_cons, checked_slots]
    cases known <;> cases negated <;> rfl
  | .like column negated _ => by
    rw [Formula.pieces, List.all_append, checked_column]
    cases known <;> cases negated <;> rfl
  | .null column negated => by
    rw [Formula.pieces, List.all_append, checked_column]
    cases known <;> cases negated <;> rfl
  | .constant holds => by cases known <;> cases holds <;> rfl
  | .any branches => by
    rw [Formula.pieces, List.all_cons, List.all_append, checked_branchPieces branches]
    cases known <;> rfl

theorem checked_branchPieces : ∀ branches : List (List Formula),
    (Formula.branchPieces branches).all (isChecked known) = true
  | [] => rfl
  | [branch] => checked_bracketed branch
  | branch :: second :: rest => by
    have or : isChecked known (.fixed " OR ") = true := by cases known <;> rfl
    simp [Formula.branchPieces, -List.all_eq_true, checked_bracketed branch, checked_branchPieces (second :: rest), or]

theorem checked_bracketed : ∀ branch : List Formula, (Formula.bracketed branch).all (isChecked known) = true
  | [] => rfl
  | [formula] => checked_pieces formula
  | formula :: second :: rest => by
    have brackets : isChecked known (.fixed "(") = true ∧ isChecked known (.fixed ")") = true := by cases known <;> exact ⟨rfl, rfl⟩
    simp [Formula.bracketed, -List.all_eq_true, checked_pieces formula, checked_conjoined (second :: rest), brackets]

theorem checked_conjoined : ∀ formulas : List Formula, (Formula.conjoined formulas).all (isChecked known) = true
  | [] => rfl
  | formula :: rest => by
    rw [Formula.conjoined, List.all_cons, List.all_append, checked_pieces formula, checked_conjoined rest]
    cases known <;> rfl
end

end RecordMapper.Clause
