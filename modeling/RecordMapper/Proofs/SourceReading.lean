import Mathlib.Data.List.TakeWhile
import RecordMapper.Proofs.CheckedNames
import RecordMapper.Proofs.WhereGuard

/-! The source of a read, read back from its text: names up to their closing marks, a join by its keyword, and all that
follows it as the expression to join on. -/

namespace RecordMapper.Clause

variable (known : Known)

/-- A quoted name that holds no closing mark, and what follows it. -/
def readName : List Char → Option (String × List Char)
  | [] => none
  | c :: rest =>
    if c = known.opening then
      match rest.dropWhile (· ≠ known.closing) with
      | [] => none
      | _ :: after => some (String.ofList (rest.takeWhile (· ≠ known.closing)), after)
    else none

/-- A table, within a database if a point stands after the first name. -/
def readTable (letters : List Char) : Option (TableRef × List Char) :=
  match readName known letters with
  | some (database, '.' :: after) => (readName known after).map fun (name, rest) => (⟨some database, name⟩, rest)
  | some (name, rest) => some (⟨none, name⟩, rest)
  | none => none

/-- An alias after a blank, if there is one. -/
def readAlias : List Char → Option String × List Char
  | ' ' :: after =>
    match readName known after with
    | some (name, rest) => (some name, rest)
    | none => (none, ' ' :: after)
  | letters => (none, letters)

def readKind (letters : List Char) : Option (JoinKind × List Char) :=
  [.left, .right, .inner].findSome? fun (kind : JoinKind) =>
    (letters.dropPrefix? (" " ++ kind.keyword ++ " ").toList).map fun rest => (kind, rest)

def readJoin (letters : List Char) : Option JoinedTable := do
  let (kind, rest) ← readKind letters
  let (table, rest) ← readTable known rest
  let (aliasName, rest) := readAlias known rest
  let expression ← rest.dropPrefix? " ON ".toList
  return ⟨kind, table, aliasName, String.ofList expression⟩

def readSource (text : String) : Option RowSource := do
  let (table, rest) ← readTable known text.toList
  let (aliasName, rest) := readAlias known rest
  if rest.isEmpty then return ⟨table, aliasName, none⟩
  let join ← readJoin known rest
  return ⟨table, aliasName, some join⟩

variable {known : Known}

theorem letters_name (name : String) (rest : List Piece) :
    letters known.dialect 1 (.name name :: rest) = (known.dialect.quote name).toList ++ letters known.dialect 1 rest :=
  letters_cons _ _ _ _

theorem letters_fixed (text : String) (rest : List Piece) :
    letters known.dialect 1 (.fixed text :: rest) = text.toList ++ letters known.dialect 1 rest :=
  letters_cons _ _ _ _

theorem letters_append {first : List Piece} (unbound : Piece.params first = []) (second : List Piece) :
    letters known.dialect 1 (first ++ second) = letters known.dialect 1 first ++ letters known.dialect 1 second := by
  simp only [← toList_join, join_append known.dialect unbound, String.toList_append]

theorem params_alias (aliasName : Option String) : Piece.params (aliasPieces aliasName) = [] :=
  Piece.silent_value.aliased aliasName

theorem readName_letters {name : String} (identifier : identifies name) (rest : List Piece) :
    readName known (letters known.dialect 1 (.name name :: rest)) = some (name, letters known.dialect 1 rest) := by
  have absent : ∀ c ∈ name.toList, decide (c ≠ known.closing) = true := by
    intro c member
    simp only [ne_eq, decide_eq_true_eq]
    rintro rfl
    exact closing_not_mem identifier known member
  rw [letters_name, toList_quote name (closing_not_mem identifier known), List.cons_append, List.append_assoc, readName,
    if_pos rfl, List.dropWhile_append_of_pos absent, List.takeWhile_append_of_pos absent, List.singleton_append,
    List.dropWhile_cons_of_neg (p := fun c => decide (c ≠ known.closing)) (by simp),
    List.takeWhile_cons_of_neg (p := fun c => decide (c ≠ known.closing)) (by simp), List.append_nil,
    String.ofList_toList]

/-- A table ends where no point follows. -/
theorem readTable_letters {table : TableRef} (checked : table.Checked) {rest : List Piece}
    (ends : (letters known.dialect 1 rest).head? ≠ some '.') :
    readTable known (letters known.dialect 1 (table.pieces ++ rest)) = some (table, letters known.dialect 1 rest) := by
  obtain ⟨database, name⟩ := table
  cases database with
  | none =>
    rw [TableRef.pieces, List.singleton_append, readTable, readName_letters checked.name]
    split
    -- a name that is followed by a point would be read as a database
    next same =>
      rw [(Prod.mk.inj (Option.some.inj same)).2] at ends
      exact absurd rfl ends
    next same =>
      cases same
      rfl
    next same => cases same
  | some database =>
    have owner : identifies database := checked.database database rfl
    have point : ".".toList = ['.'] := rfl
    simp only [TableRef.pieces, List.cons_append, List.nil_append, readTable, readName_letters owner, letters_fixed, point,
      readName_letters checked.name, Option.map_some]

theorem readAlias_some {name : String} (identifier : identifies name) (rest : List Piece) :
    readAlias known (letters known.dialect 1 (aliasPieces (some name) ++ rest)) =
      (some name, letters known.dialect 1 rest) := by
  have blank : " ".toList = [' '] := rfl
  simp only [aliasPieces, List.cons_append, List.nil_append, letters_fixed, blank, readAlias, readName_letters identifier]

/-- There is no alias where a blank is followed by no quotation. -/
theorem readAlias_none {letters : List Char} (ends : ∀ c rest, letters = ' ' :: c :: rest → c ≠ known.opening) :
    readAlias known letters = (none, letters) := by
  unfold readAlias
  split
  next after =>
    have unread : readName known after = none := by
      cases after with
      | nil => rfl
      | cons c rest => exact if_neg (ends c rest rfl)
    rw [unread]
  next => rfl

theorem ne_opening {c : Char} (letter : c.isUpper = true) : c ≠ known.opening := by
  have mark : known.opening.isUpper = false := by cases known <;> rfl
  rintro rfl
  exact absurd (letter.symm.trans mark) nofun

theorem readKind_keyword (kind : JoinKind) (rest : List Char) :
    readKind ((" " ++ kind.keyword ++ " ").toList ++ rest) = some (kind, rest) := by
  cases kind <;> simp [readKind, JoinKind.keyword, List.dropPrefix?]

theorem readAlias_letters {aliasName : Option String} (checked : ∀ name ∈ aliasName, identifies name)
    {rest : List Piece}
    (ends : ∀ c more, letters known.dialect 1 rest = ' ' :: c :: more → c ≠ known.opening) :
    readAlias known (letters known.dialect 1 (aliasPieces aliasName ++ rest)) =
      (aliasName, letters known.dialect 1 rest) := by
  cases aliasName with
  | none => exact readAlias_none ends
  | some name => exact readAlias_some (checked name rfl) rest

theorem head?_alias {aliasName : Option String} {rest : List Piece}
    (ends : (letters known.dialect 1 rest).head? ≠ some '.') :
    (letters known.dialect 1 (aliasPieces aliasName ++ rest)).head? ≠ some '.' := by
  cases aliasName with
  | none => exact ends
  | some name =>
    have blank : " ".toList = [' '] := rfl
    simp [aliasPieces, letters_fixed, blank]

theorem readJoin_letters {join : JoinedTable} (within : join.table.Checked)
    (called : ∀ name ∈ join.aliasName, identifies name) :
    readJoin known (letters known.dialect 1 join.pieces) = some join := by
  obtain ⟨kind, table, aliasName, expression⟩ := join
  have on : " ON ".toList = [' ', 'O', 'N', ' '] := rfl
  have last : letters known.dialect 1 [.fixed " ON ", .raw expression] = " ON ".toList ++ expression.toList := by
    rw [letters_fixed, letters_cons, letters]
    exact congrArg _ (List.append_nil _)
  have aliased : readAlias known (letters known.dialect 1 (aliasPieces aliasName ++ [.fixed " ON ", .raw expression])) =
      (aliasName, letters known.dialect 1 [.fixed " ON ", .raw expression]) := by
    refine readAlias_letters called ?_
    rw [last, on]
    rintro _ _ ⟨⟩
    exact ne_opening rfl
  have tabled : readTable known
      (letters known.dialect 1 (table.pieces ++ (aliasPieces aliasName ++ [.fixed " ON ", .raw expression]))) =
      some (table, letters known.dialect 1 (aliasPieces aliasName ++ [.fixed " ON ", .raw expression])) := by
    refine readTable_letters within (head?_alias ?_)
    simp [last, on]
  rw [JoinedTable.pieces, List.append_assoc, letters_fixed, readJoin, readKind_keyword]
  simp only [tabled, aliased, last, List.dropPrefix?_append_of_beq _ (beq_self_eq_true _), Option.bind_eq_bind,
    Option.bind_some, String.ofList_toList]
  rfl

/-- A join starts with a blank and its keyword. -/
theorem letters_join (known : Known) (join : JoinedTable) :
    ∃ c more, letters known.dialect 1 join.pieces = ' ' :: c :: more ∧ c.isUpper = true := by
  rw [JoinedTable.pieces, letters_fixed]
  cases join.kind <;> exact ⟨_, _, rfl, rfl⟩

/-- The text of a source whose names have been checked is read as that source. -/
theorem readSource_pieces {source : RowSource} (checked : source.Checked) :
    readSource known (Piece.join known.dialect source.pieces) = some source := by
  obtain ⟨table, aliasName, join⟩ := source
  rw [readSource, toList_join, RowSource.pieces, List.append_assoc]
  cases join with
  | none =>
    have nothing : letters known.dialect 1 [] = [] := rfl
    have aliased : readAlias known (letters known.dialect 1 (aliasPieces aliasName ++ [])) = (aliasName, []) :=
      readAlias_letters checked.aliasName (by simp [nothing])
    have tabled : readTable known (letters known.dialect 1 (table.pieces ++ (aliasPieces aliasName ++ []))) =
        some (table, letters known.dialect 1 (aliasPieces aliasName ++ [])) :=
      readTable_letters checked.table (head?_alias (by simp [nothing]))
    simp only [tabled, aliased, Option.bind_eq_bind, Option.bind_some]
    rfl
  | some join =>
    obtain ⟨c, more, starts, upper⟩ := letters_join known join
    obtain ⟨within, called⟩ := checked.joined join rfl
    have aliased : readAlias known (letters known.dialect 1 (aliasPieces aliasName ++ join.pieces)) =
        (aliasName, letters known.dialect 1 join.pieces) := by
      refine readAlias_letters checked.aliasName ?_
      rw [starts]
      rintro _ _ ⟨⟩
      exact ne_opening upper
    have tabled : readTable known (letters known.dialect 1 (table.pieces ++ (aliasPieces aliasName ++ join.pieces))) =
        some (table, letters known.dialect 1 (aliasPieces aliasName ++ join.pieces)) := by
      refine readTable_letters checked.table (head?_alias ?_)
      simp [starts]
    have filled : (letters known.dialect 1 join.pieces).isEmpty = false := by
      rw [starts]
      rfl
    simp only [tabled, aliased, filled, readJoin_letters within called, Option.bind_eq_bind, Option.bind_some]
    rfl

theorem eq_of_readName {letters rest : List Char} {name : String} (read : readName known letters = some (name, rest)) :
    letters = (known.dialect.quote name).toList ++ rest := by
  cases letters with
  | nil => cases read
  | cons c inside =>
    rw [readName] at read
    split at read
    next opens =>
      have whole := List.takeWhile_append_dropWhile (p := fun c => decide (c ≠ known.closing)) (l := inside)
      have last := List.head?_dropWhile_not (fun c => decide (c ≠ known.closing)) inside
      split at read
      next => cases read
      next mark after found =>
        cases read
        rw [found] at whole last
        have closes : mark = known.closing := by simpa using last
        have absent : known.closing ∉ (inside.takeWhile fun c => decide (c ≠ known.closing)) := fun member => by
          simpa using List.mem_takeWhile_imp member
        rw [opens, toList_quote _ (by simpa using absent), String.toList_ofList, List.cons_append, List.append_assoc,
          ← closes]
        exact congrArg _ (closes ▸ whole.symm)
    next => cases read

theorem eq_of_readTable {letters rest : List Char} {table : TableRef}
    (read : readTable known letters = some (table, rest)) :
    letters = Clause.letters known.dialect 1 table.pieces ++ rest := by
  have nothing : Clause.letters known.dialect 1 [] = [] := rfl
  unfold readTable at read
  split at read
  next database after first =>
    obtain ⟨⟨name, _⟩, second, same⟩ := Option.map_eq_some_iff.mp read
    cases same
    rw [eq_of_readName first, eq_of_readName second, TableRef.pieces, letters_name, letters_fixed, letters_name, nothing]
    simp
  next name _ _ only =>
    cases read
    rw [eq_of_readName only, TableRef.pieces, letters_name, nothing, List.append_nil]
  next => cases read

/-- Nothing is lost where an alias is looked for. -/
theorem readAlias_whole (known : Known) (letters : List Char) :
    letters = Clause.letters known.dialect 1 (aliasPieces (readAlias known letters).1) ++ (readAlias known letters).2 := by
  have nothing : Clause.letters known.dialect 1 [] = [] := rfl
  unfold readAlias
  split
  next after =>
    split
    next name _ called =>
      rw [eq_of_readName called, aliasPieces, letters_fixed, letters_name, nothing]
      simp
    next => rfl
  next => rfl

theorem eq_of_readKind {letters rest : List Char} {kind : JoinKind} (read : readKind letters = some (kind, rest)) :
    letters = (" " ++ kind.keyword ++ " ").toList ++ rest := by
  obtain ⟨_, _, found⟩ := List.exists_of_findSome?_eq_some read
  obtain ⟨_, dropped, same⟩ := Option.map_eq_some_iff.mp found
  cases same
  obtain ⟨_, whole, equal⟩ := List.dropPrefix?_eq_some_iff.mp dropped
  rw [whole, eq_of_beq equal]

theorem eq_of_readJoin {letters : List Char} {join : JoinedTable} (read : readJoin known letters = some join) :
    letters = Clause.letters known.dialect 1 join.pieces := by
  simp only [readJoin, Option.bind_eq_bind, Option.bind_eq_some_iff] at read
  obtain ⟨⟨kind, first⟩, keyword, ⟨table, second⟩, tabled, expression, dropped, same⟩ := read
  cases same
  dsimp only at tabled dropped ⊢
  obtain ⟨_, whole, equal⟩ := List.dropPrefix?_eq_some_iff.mp dropped
  have last : Clause.letters known.dialect 1 [.fixed " ON ", .raw (String.ofList expression)] =
      " ON ".toList ++ expression := by
    simp [Clause.letters, Piece.text, Piece.texts]
  have aliased := readAlias_whole known second
  rw [whole, eq_of_beq equal] at aliased
  rw [eq_of_readKind keyword, eq_of_readTable tabled, JoinedTable.pieces, letters_fixed, List.append_assoc,
    letters_append (params_table table), letters_append (params_alias _), last, ← aliased]

theorem eq_of_readSource {text : String} {source : RowSource} (read : readSource known text = some source) :
    text = Piece.join known.dialect source.pieces := by
  simp only [readSource, Option.bind_eq_bind, Option.bind_eq_some_iff] at read
  obtain ⟨⟨table, rest⟩, tabled, read⟩ := read
  dsimp only at read
  have aliased := readAlias_whole known rest
  rw [← String.toList_inj, toList_join, eq_of_readTable tabled]
  split at read
  next ends =>
    cases read
    rw [List.isEmpty_iff.mp ends, List.append_nil] at aliased
    rw [RowSource.pieces, List.append_assoc, letters_append (params_table table), List.append_nil, ← aliased]
  next =>
    obtain ⟨join, joined, same⟩ := Option.bind_eq_some_iff.mp read
    cases same
    rw [eq_of_readJoin joined] at aliased
    rw [RowSource.pieces, List.append_assoc, letters_append (params_table table), letters_append (params_alias _),
      ← aliased]

/-- A source has one text, and no other text is read as it. -/
theorem readSource_eq_some {source : RowSource} (checked : source.Checked) {text : String} :
    readSource known text = some source ↔ text = Piece.join known.dialect source.pieces := by
  constructor
  · exact eq_of_readSource
  · rintro rfl
    exact readSource_pieces checked

end RecordMapper.Clause
