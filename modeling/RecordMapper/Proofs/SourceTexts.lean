import RecordMapper.Proofs.SourceReading
import RecordMapper.Proofs.UpdateTexts

/-! Reads over several tables: which conditions they can be made from, and that their source, read back from its text, is the
one that the condition asks for. -/

namespace RecordMapper
open Outcome

namespace Text

/-- The parts of a text between blanks, without the empty ones. -/
def parts (text : String) : List String := ((text.toList.splitOnP isBlank).filter (· ≠ [])).map String.ofList

theorem words_eq_parts (text : String) : words text = parts text := by
  -- both keep the part that is being read with its last letter first
  have between (letters current : List Char) :
      wordsFrom current letters = (letters.splitOnPPrepend isBlank current).filter (· ≠ []) := by
    induction letters generalizing current with
    | nil => cases current <;> simp [wordsFrom]
    | cons c rest ih =>
      rw [wordsFrom]
      split
      next blank =>
        rw [List.splitOnPPrepend_cons_pos blank, ih, List.splitOnPPrepend_nil_right]
        cases current <;> simp
      next inside => rw [List.splitOnPPrepend_cons_neg (by simpa using inside), ih]
  rw [words, parts, between, List.splitOnPPrepend_nil_right]

end Text

/-- A join of one table, with an alias or without one, on an expression. -/
structure Join.Usable (join : Join) : Prop where
  few : (Text.parts join.table).length = 1 ∨ (Text.parts join.table).length = 2
  names : ∀ part ∈ Text.parts join.table, identifies part
  expression : ∃ c ∈ join.expression.toList, Text.isBlank c = false

/-- A condition that a read over several tables can be made from. -/
structure Condition.Selectable (condition : Condition) (database : Option String) : Prop where
  fields : condition.fields ≠ []
  source : ∃ source, condition.source = some source ∧ identifies source.table ∧ identifies source.aliasName
  database : ∀ owner, database = some owner → owner ≠ "" → identifies owner
  join : ∀ join, condition.join = some join → join.Usable
  filter : ∃ filter, condition.formulas = .ok filter
  groups : ∃ groups, condition.groupRefs = .ok groups
  sorts : ∃ sorts, condition.sortRefs = .ok sorts

/-- The joined table that a join asks for: its parts are the table and the alias. -/
structure JoinedTable.Answers (joined : JoinedTable) (database : Option String) (join : Join) : Prop where
  kind : joined.kind = join.kind
  within : joined.table.database = database.filter (· ≠ "")
  names : joined.table.name :: joined.aliasName.toList = Text.parts join.table
  expression : joined.expression = join.expression

/-- The source that a condition asks for. -/
structure RowSource.Answers (source : RowSource) (database : Option String) (condition : Condition) : Prop where
  names : ∃ from_, condition.source = some from_ ∧ source.table.name = from_.table ∧ source.aliasName = some from_.aliasName
  within : source.table.database = database.filter (· ≠ "")
  join : Option.Rel (fun joined join => joined.Answers database join) source.join condition.join

namespace Statement

variable {database : Option String} {condition : Condition} {statement : Statement}

theorem allBlank_eq_false {text : String} : Text.allBlank text = false ↔ ∃ c ∈ text.toList, Text.isBlank c = false := by
  simp [Text.allBlank]

theorem joinedTable_succeeds {join : Join} (owned : ∀ owner, database = some owner → owner ≠ "" → Name.check owner = .ok ()) :
    (∃ joined, joinedTable database join = .ok joined) ↔ join.Usable := by
  simp only [joinedTable_eq_ok, Text.words_eq_parts, allBlank_eq_false, make_eq_ok]
  constructor
  · rintro ⟨joined, split, ⟨named, _, _⟩, called, expression, _⟩
    refine ⟨?_, ?_, expression⟩
    · rw [split]
      cases joined.aliasName <;> simp
    · rw [split]
      refine List.forall_mem_cons.mpr ⟨Name.check_eq_ok.mp named, fun part member => ?_⟩
      exact Name.check_eq_ok.mp (called part (Option.mem_toList.mp member))
  · rintro ⟨few, names, expression⟩
    have checked (part : String) (member : part ∈ Text.parts join.table) := Name.check_eq_ok.mpr (names part member)
    obtain one | two := few
    · obtain ⟨name, split⟩ := List.length_eq_one_iff.mp one
      rw [split] at checked
      exact ⟨⟨join.kind, ⟨database.filter (· ≠ ""), name⟩, none, join.expression⟩, split,
        ⟨checked name (by simp), owned, rfl⟩, nofun, expression, rfl, rfl⟩
    · obtain ⟨name, second, split⟩ := List.length_eq_two.mp two
      rw [split] at checked
      refine ⟨⟨join.kind, ⟨database.filter (· ≠ ""), name⟩, some second, join.expression⟩, split,
        ⟨checked name (by simp), owned, rfl⟩, ?_, expression, rfl, rfl⟩
      rintro _ ⟨⟩
      exact checked second (by simp)

theorem complexSource_succeeds :
    (∃ source, complexSource database condition = .ok source) ↔
      (∃ from_, condition.source = some from_ ∧ identifies from_.table ∧ identifies from_.aliasName) ∧
        (∀ owner, database = some owner → owner ≠ "" → identifies owner) ∧
        ∀ join, condition.join = some join → join.Usable := by
  simp only [complexSource_eq_ok, make_eq_ok]
  constructor
  · rintro ⟨⟨_, _, _⟩, from_, given, called, ⟨named, owned, _⟩, _, joined⟩
    refine ⟨⟨from_, given, Name.check_eq_ok.mp named, Name.check_eq_ok.mp called⟩,
      fun owner within filled => Name.check_eq_ok.mp (owned owner within filled), fun join asked => ?_⟩
    rw [asked] at joined
    cases joined with
    | some found => exact (joinedTable_succeeds owned).mp ⟨_, found⟩
  · rintro ⟨⟨from_, given, named, called⟩, owned, usable⟩
    have checked (owner : String) (within : database = some owner) (filled : owner ≠ "") : Name.check owner = .ok () :=
      Name.check_eq_ok.mpr (owned owner within filled)
    have joins : ∃ joined, Option.Rel (fun join joined => joinedTable database join = .ok joined) condition.join joined := by
      cases asked : condition.join with
      | none => exact ⟨none, .none⟩
      | some join =>
        obtain ⟨joined, found⟩ := (joinedTable_succeeds checked).mpr (usable join asked)
        exact ⟨some joined, .some found⟩
    obtain ⟨joined, found⟩ := joins
    exact ⟨⟨⟨database.filter (· ≠ ""), from_.table⟩, some from_.aliasName, joined⟩, from_, given,
      Name.check_eq_ok.mpr called, ⟨Name.check_eq_ok.mpr named, checked, rfl⟩, rfl, found⟩

theorem answers_joinedTable {join : Join} {joined : JoinedTable} (made : joinedTable database join = .ok joined) :
    joined.Answers database join := by
  obtain ⟨split, within, _, _, kind, expression⟩ := joinedTable_eq_ok.mp made
  obtain ⟨_, _, table⟩ := make_eq_ok.mp within
  exact ⟨kind, congrArg TableRef.database table, Text.words_eq_parts join.table ▸ split.symm, expression⟩

theorem answers_complexSource {source : RowSource} (made : complexSource database condition = .ok source) :
    source.Answers database condition := by
  obtain ⟨_, _, _⟩ := source
  obtain ⟨from_, given, _, within, called, joined⟩ := complexSource_eq_ok.mp made
  obtain ⟨_, _, table⟩ := make_eq_ok.mp within
  refine ⟨⟨from_, given, congrArg TableRef.name table, called⟩, congrArg TableRef.database table, ?_⟩
  generalize condition.join = asked at joined
  cases joined with
  | none => exact .none
  | some found => exact .some (answers_joinedTable found)

end Statement

namespace Piece

theorem params_source (source : RowSource) : params source.pieces = [] := by
  rw [params, silent_value.source]
  exact List.filterMap_eq_nil_iff.mpr fun _ _ => rfl

theorem params_expressions (fields : List String) :
    params (separated ", " ((fields.map Item.expression).map Item.pieces)) = [] := by
  rw [params_separated, List.map_map, List.flatMap_map]
  exact List.flatMap_eq_nil_iff.mpr fun _ _ => rfl

theorem join_expressions (dialect : Dialect) (fields : List String) :
    join dialect (separated ", " ((fields.map Item.expression).map Item.pieces)) = ", ".intercalate fields := by
  let print (_ : Value) := ""
  have each (text : String) : printed dialect print (Item.expression text).pieces = text := by
    simp [Item.pieces, printed, printedOne, Piece.text]
  have whole : join dialect (separated ", " ((fields.map Item.expression).map Item.pieces)) = printed dialect print _ :=
    join_eq_printed (params_expressions fields)
  rw [whole, printed_separated, List.map_map, List.map_map]
  simp only [Function.comp_def, each, List.map_id']

end Piece

namespace Statement

variable {database : Option String} {condition : Condition} {statement : Statement}

/-- The source of a query stands between its expressions and its clauses. -/
theorem text_expressions (dialect : Dialect) (fields : List String) (source : RowSource) (filter : List Formula)
    (groups : List ColumnRef) (sorts : List (ColumnRef × Order)) :
    text dialect ⟨.select ⟨fields.map .expression, source, filter, groups, sorts⟩, []⟩ =
      "SELECT " ++ ", ".intercalate fields ++ " FROM " ++ Piece.join dialect source.pieces ++
        Piece.join dialect (Formula.wherePieces filter ++ groupPieces groups ++ sortPieces sorts) := by
  let items := Piece.separated ", " ((fields.map Item.expression).map Item.pieces)
  let clauses := Formula.wherePieces filter ++ groupPieces groups ++ sortPieces sorts
  have whole : text dialect ⟨.select ⟨fields.map .expression, source, filter, groups, sorts⟩, []⟩ =
      Piece.join dialect (.fixed "SELECT " :: (items ++ .fixed " FROM " :: (source.pieces ++ clauses))) := by
    refine Clause.text_of_section dialect ?_
    simp [sections, Command.sections, Query.pieces, items, clauses]
  rw [whole, Clause.join_fixed, Clause.join_append dialect (Piece.params_expressions fields), Piece.join_expressions,
    Clause.join_fixed, Clause.join_append dialect (Piece.params_source source)]
  simp only [String.append_assoc, clauses]

/-- A read over several tables is made exactly from a condition that is fit for it. Its source, written between the
expressions and the clauses, is read back as the tables, the aliases and the expression to join on that the condition asks
for, each table within the database if one is set, and no other text is read as that source. -/
theorem complex_source_reads_back (known : Clause.Known) (database : Option String) (condition : Condition) :
    ((∃ statement, selectComplex database condition = .ok statement) ↔ condition.Selectable database) ∧
    ∀ statement, selectComplex database condition = .ok statement →
      ∃ written source filter groups sorts, condition.formulas = .ok filter ∧ condition.groupRefs = .ok groups ∧
        condition.sortRefs = .ok sorts ∧
        statement.text known.dialect = "SELECT " ++ ", ".intercalate condition.fields ++ " FROM " ++ written ++
          Piece.join known.dialect (Formula.wherePieces filter ++ groupPieces groups ++ sortPieces sorts) ∧
        (∀ text, Clause.readSource known text = some source ↔ text = written) ∧ source.Answers database condition := by
  constructor
  · simp only [selectComplex_eq_ok]
    constructor
    · rintro ⟨_, source, filter, groups, sorts, fields, from_, formulas, grouped, sorted, _⟩
      obtain ⟨named, owned, usable⟩ := complexSource_succeeds.mp ⟨source, from_⟩
      exact ⟨fields, named, owned, usable, ⟨filter, formulas⟩, ⟨groups, grouped⟩, ⟨sorts, sorted⟩⟩
    · rintro ⟨fields, named, owned, usable, ⟨filter, formulas⟩, ⟨groups, grouped⟩, ⟨sorts, sorted⟩⟩
      obtain ⟨source, from_⟩ := complexSource_succeeds.mpr ⟨named, owned, usable⟩
      exact ⟨_, source, filter, groups, sorts, fields, from_, formulas, grouped, sorted, rfl⟩
  · intro statement made
    obtain ⟨source, filter, groups, sorts, _, from_, formulas, grouped, sorted, rfl⟩ := selectComplex_eq_ok.mp made
    exact ⟨_, source, filter, groups, sorts, formulas, grouped, sorted, text_expressions _ _ _ _ _ _,
      fun _ => Clause.readSource_eq_some (checked_complexSource from_).1, answers_complexSource from_⟩

/-- Words of a join stand between blanks of any kind. -/
theorem joined_tokens_read_back :
    let condition : Condition :=
      .build {} [.source "wallet" "w", .join .left "\ttoken  t " "w.id = t.id", .project ["t.id"]]
    condition.Selectable (some "shop") ∧
      ∃ written source, Clause.readSource (.numbered 9) written = some source ∧ source.Answers (some "shop") condition := by
  intro condition
  obtain ⟨selectable, reads⟩ := complex_source_reads_back (.numbered 9) (some "shop") condition
  have made : ∃ statement, selectComplex (some "shop") condition = .ok statement := ⟨_, rfl⟩
  obtain ⟨statement, text⟩ := made
  obtain ⟨written, source, _, _, _, _, _, _, _, read, answers⟩ := reads statement text
  exact ⟨selectable.mp ⟨statement, text⟩, written, source, (read written).mpr rfl, answers⟩

end Statement

end RecordMapper
