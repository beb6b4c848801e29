import RecordMapper.Proofs.ModelRecords
import RecordMapper.Proofs.PlainTexts
import RecordMapper.Proofs.UpdateBatches
import RecordMapper.Proofs.WhereText
import RecordMapper.Sql.Reads

/-! Names cannot become SQL. Every name that a statement has in its text has been checked: a column when its model was
described, a table and an alias when the statement was made, a key when its formula was. -/

namespace RecordMapper
open Outcome Clause

def identifies (name : String) : Prop := Name.isIdentifier name.toList

/-- A table whose names are identifiers. -/
structure TableRef.Checked (table : TableRef) : Prop where
  name : identifies table.name
  database : ∀ name ∈ table.database, identifies name

theorem TableRef.checked_make {database : Option String} {name : String} {table : TableRef}
    (made : make database name = .ok table) : table.Checked := by
  obtain ⟨named, owned, rfl⟩ := Statement.make_eq_ok.mp made
  refine ⟨Name.check_eq_ok.mp named, fun owner given => ?_⟩
  obtain ⟨same, present⟩ := Option.filter_eq_some_iff.mp given
  exact Name.check_eq_ok.mp (owned owner same (by simpa using present))

namespace Clause

variable {known : Known} {numbers : List Nat}

theorem flows_table (real : known.slotMark = '?') {table : TableRef} (checked : table.Checked) :
    Flows known numbers table.pieces := by
  obtain ⟨database, name⟩ := table
  cases database with
  | none => exact flows_name checked.name
  | some outer =>
    have point : PlainText known numbers "." := plainText_phrase real (by simp [phrases])
    have inner := (flows_name checked.name).after point rfl
    exact (flows_name (checked.database outer rfl)).append inner (opens_fixed rfl _)

theorem follows_alias (real : known.slotMark = '?') {aliasName : Option String}
    (checked : ∀ name ∈ aliasName, identifies name) : Follows known numbers (aliasPieces aliasName) := by
  cases aliasName with
  | none => exact follows_nil
  | some name => exact (flows_name (checked name rfl)).between (plainText_phrase real (by simp [phrases])) rfl rfl

theorem flows_commas (real : known.slotMark = '?') {pieces : α → List Piece} {items : List α}
    (each : ∀ item ∈ items, Flows known numbers (pieces item)) :
    Flows known numbers (Piece.separated ", " (items.map pieces)) := by
  apply flows_separated (plainText_phrase real (by simp [phrases])) rfl rfl
  intro group member
  obtain ⟨item, inside, rfl⟩ := List.mem_map.mp member
  exact each item inside

theorem flows_column (real : known.slotMark = '?') {column : ColumnRef} (legible : Legible column) :
    Flows known numbers column.pieces := by
  have spaced := spaced_column legible (show Breaks [] from trivial) .nil
  rw [List.append_nil] at spaced
  exact flows_spaced real spaced (checked_column column)

theorem flows_slots (real : known.slotMark = '?') (values : List Value) : Flows known numbers (Piece.slots values) := by
  have spaced := spaced_slots values .nil
  rw [List.append_nil] at spaced
  exact flows_spaced real spaced (checked_slots values)

theorem follows_where (real : known.slotMark = '?') {filter : List Formula} (sound : AllSound filter) :
    Follows known numbers (Formula.wherePieces filter) := by
  unfold Formula.wherePieces
  split
  · exact follows_nil
  · have checked : (Formula.allPieces filter).all (isChecked known) = true := by
      cases filter with
      | nil => rfl
      | cons formula rest =>
        rw [Formula.allPieces, List.all_append, checked_pieces, checked_conjoined]
        rfl
    have clause : Flows known numbers (Formula.allPieces filter) := flows_spaced real (spaced_allPieces sound) checked
    exact clause.between (plainText_phrase real (by simp [phrases])) rfl rfl

theorem follows_groups (real : known.slotMark = '?') {groups : List ColumnRef} (legible : ∀ column ∈ groups, Legible column) :
    Follows known numbers (groupPieces groups) := by
  unfold groupPieces
  split
  · exact follows_nil
  · apply Flows.between (flows_commas real ?_) (plainText_phrase real (by simp [phrases])) rfl rfl
    exact fun column member => flows_column real (legible column member)

theorem follows_sorts (real : known.slotMark = '?') {sorts : List (ColumnRef × Order)}
    (legible : ∀ sort ∈ sorts, Legible sort.1) : Follows known numbers (sortPieces sorts) := by
  unfold sortPieces
  split
  · exact follows_nil
  · apply Flows.between (flows_commas real ?_) (plainText_phrase real (by simp [phrases])) rfl rfl
    rintro ⟨column, order⟩ member
    have direction : PlainText known numbers (" " ++ order.keyword) :=
      plainText_phrase real (by cases order <;> simp [phrases, Order.keyword])
    exact (flows_column real (legible _ member)).append (flows_fixed direction) (opens_fixed (by cases order <;> rfl) _)

end Clause

/-- Names of a source of rows that are identifiers. -/
structure RowSource.Checked (source : RowSource) : Prop where
  table : source.table.Checked
  aliasName : ∀ name ∈ source.aliasName, identifies name
  joined : ∀ join ∈ source.join, join.table.Checked ∧ ∀ name ∈ join.aliasName, identifies name

/-- A query whose names have been checked. -/
structure Query.Checked (query : Query) : Prop where
  items : ∀ item ∈ query.items, ∀ name, item = .column name → identifies name
  labels : ∀ item ∈ query.items, ∀ label, item = .oneAs label → label = "_one"
  source : query.source.Checked
  filter : AllSound query.filter
  groups : ∀ column ∈ query.groups, Legible column
  sorts : ∀ sort ∈ query.sorts, Legible sort.1

namespace Clause

variable {known : Known} {numbers : List Nat}

theorem flows_source (real : known.slotMark = '?') {source : RowSource} (checked : source.Checked) :
    Flows known numbers source.pieces := by
  obtain ⟨table, aliasName, join⟩ := source
  have called : Follows known numbers (aliasPieces aliasName) := follows_alias real checked.aliasName
  have named := (flows_table real checked.table).followed called
  cases join with
  | none => simpa [RowSource.pieces] using named
  | some join =>
    obtain ⟨within, other⟩ := checked.joined join rfl
    have kind : PlainText known numbers (" " ++ join.kind.keyword ++ " ") :=
      plainText_phrase real (by cases join.kind <;> simp [phrases, JoinKind.keyword])
    have on : PlainText known numbers " ON " := plainText_phrase real (by simp [phrases])
    -- the expression to join on stands last, and the text is cut there: what comes after may begin with anything
    have target := (follows_alias real other).append ((flows_trusted join.expression).between on rfl rfl)
    have joined := ((flows_table real within).followed target).between kind
      (by cases join.kind <;> rfl) (by cases join.kind <;> rfl)
    have whole := named.followed joined
    simpa [RowSource.pieces, JoinedTable.pieces] using whole

theorem flows_query (real : known.slotMark = '?') {query : Query} (checked : query.Checked) :
    Flows known numbers query.pieces := by
  have items : Flows known numbers (Piece.separated ", " (query.items.map Item.pieces)) := by
    apply flows_commas real
    intro item inside
    cases item with
    | column name => exact flows_name (checked.items _ inside name rfl)
    | expression text => exact flows_trusted text
    | one => exact flows_fixed (plainText_phrase real (by simp [phrases]))
    | oneAs label =>
      obtain rfl := checked.labels _ inside label rfl
      exact flows_fixed (plainText_phrase real (by simp [phrases]))
  have filter : Follows known numbers (Formula.wherePieces query.filter) := follows_where real checked.filter
  have conditions := (filter.append (follows_groups real checked.groups)).append (follows_sorts real checked.sorts)
  have from_ : PlainText known numbers " FROM " := plainText_phrase real (by simp [phrases])
  have select : PlainText known numbers "SELECT " := plainText_phrase real (by simp [phrases])
  have rows := ((flows_source real checked.source).followed conditions).between from_ rfl rfl
  have whole := (items.followed rows).after select rfl
  simpa [Query.pieces] using whole

theorem follows_flatMap {pieces : α → List Piece} (each : ∀ item, Follows known numbers (pieces item)) (items : List α)
    {last : List Piece} (after : Follows known numbers last) : Follows known numbers (items.flatMap pieces ++ last) := by
  induction items with
  | nil => exact after
  | cons item rest ih =>
    rw [List.flatMap_cons, List.append_assoc]
    exact (each item).append ih

theorem flows_case (real : known.slotMark = '?') {key : String} (checked : identifies key) (arms : List (Value × Value)) :
    Flows known numbers (casePieces key arms) := by
  have case_ : PlainText known numbers "CASE " := plainText_phrase real (by simp [phrases])
  have when_ : PlainText known numbers " WHEN " := plainText_phrase real (by simp [phrases])
  have then_ : PlainText known numbers " THEN " := plainText_phrase real (by simp [phrases])
  have end_ : PlainText known numbers " END" := plainText_phrase real (by simp [phrases])
  have last : Follows known numbers [.fixed " END"] := ⟨flows_fixed end_, opens_fixed rfl []⟩
  apply Flows.after _ case_ rfl
  apply (flows_name checked).followed
  apply follows_flatMap _ arms last
  rintro ⟨given, result⟩
  exact ((flows_slot real given).followed ((flows_slot real result).between then_ rfl rfl)).between when_ rfl rfl

end Clause

/-- A command whose names have been checked. -/
def Command.Checked : Command → Prop
  | .insert table columns _ => table.Checked ∧ ∀ column ∈ columns, identifies column
  | .updateByKey table key columns _ => table.Checked ∧ identifies key ∧ ∀ column ∈ columns, identifies column.1
  | .updateWhere table columns filter => table.Checked ∧ (∀ column ∈ columns, identifies column.1) ∧ AllSound filter
  | .delete table filter => table.Checked ∧ AllSound filter
  | .select query | .countResult query => query.Checked
  | .countRows source filter => source.Checked ∧ AllSound filter
  | .createTable .. | .dropTable _ | .raw .. => False

namespace Clause

variable {known : Known} {numbers : List Nat}

theorem flows_command (real : known.slotMark = '?') {command : Command} (checked : command.Checked) :
    Flows known numbers command.sections.flatten := by
  cases command with
  | insert table columns rows =>
    obtain ⟨within, identified⟩ := checked
    have insert : PlainText known numbers "INSERT INTO " := plainText_phrase real (by simp [phrases])
    have opening : PlainText known numbers " (" := plainText_phrase real (by simp [phrases])
    have values : PlainText known numbers ") VALUES " := plainText_phrase real (by simp [phrases])
    have bound : Flows known numbers (Piece.separated ", " (rows.map Piece.slots)) :=
      flows_commas real fun row _ => flows_slots real row
    have names : Flows known numbers (Piece.separated ", " (columns.map fun column => [.name column])) :=
      flows_commas real fun column member => flows_name (identified column member)
    have given := bound.between values rfl rfl
    have named := (names.followed given).between opening rfl rfl
    simpa [Command.sections] using ((flows_table real within).followed named).after insert rfl
  | updateByKey table key columns keys =>
    obtain ⟨within, keyed, identified⟩ := checked
    have update : PlainText known numbers "UPDATE " := plainText_phrase real (by simp [phrases])
    have set_ : PlainText known numbers " SET " := plainText_phrase real (by simp [phrases])
    have equals : PlainText known numbers " = " := plainText_phrase real (by simp [phrases])
    have where_ : PlainText known numbers " WHERE " := plainText_phrase real (by simp [phrases])
    have in_ : PlainText known numbers " IN " := plainText_phrase real (by simp [phrases])
    have chosen := (flows_slots real keys).between in_ rfl rfl
    have rows := ((flows_name keyed).followed chosen).between where_ rfl rfl
    simp only [Command.sections, List.flatten_cons, List.flatten_nil, List.append_nil]
    apply Flows.after _ update rfl
    apply (flows_table real within).append _ (opens_fixed rfl _)
    apply Flows.after _ set_ rfl
    apply Flows.followed (flows_commas real ?_) rows
    rintro ⟨column, arms⟩ member
    exact (flows_name (identified _ member)).append ((flows_case real keyed arms).after equals rfl) (opens_fixed rfl _)
  | updateWhere table columns filter =>
    obtain ⟨within, identified, sound⟩ := checked
    have update : PlainText known numbers "UPDATE " := plainText_phrase real (by simp [phrases])
    have set_ : PlainText known numbers " SET " := plainText_phrase real (by simp [phrases])
    have equals : PlainText known numbers " = " := plainText_phrase real (by simp [phrases])
    have rows : Follows known numbers (Formula.wherePieces filter) := follows_where real sound
    simp only [Command.sections, List.flatten_cons, List.flatten_nil, List.append_nil]
    apply Flows.followed _ rows
    apply Flows.after _ update rfl
    apply (flows_table real within).append _ (opens_fixed rfl _)
    apply Flows.after (flows_commas real ?_) set_ rfl
    rintro ⟨column, value⟩ member
    exact (flows_name (identified _ member)).append ((flows_slot real value).after equals rfl) (opens_fixed rfl _)
  | delete table filter =>
    obtain ⟨within, sound⟩ := checked
    have delete : PlainText known numbers "DELETE FROM " := plainText_phrase real (by simp [phrases])
    have rows : Follows known numbers (Formula.wherePieces filter) := follows_where real sound
    simpa [Command.sections] using ((flows_table real within).followed rows).after delete rfl
  | select query => simpa [Command.sections] using flows_query real checked
  | countRows source filter =>
    obtain ⟨within, sound⟩ := checked
    have count : PlainText known numbers "SELECT COUNT(1) FROM " := plainText_phrase real (by simp [phrases])
    have rows : Follows known numbers (Formula.wherePieces filter) := follows_where real sound
    simpa [Command.sections] using ((flows_source real within).followed rows).after count rfl
  | countResult query =>
    have count : PlainText known numbers "SELECT COUNT(1) FROM (" := plainText_phrase real (by simp [phrases])
    have called : PlainText known numbers ") _cnt" := plainText_phrase real (by simp [phrases])
    simpa [Command.sections] using
      ((flows_query real checked).append (flows_fixed called) (opens_fixed rfl [])).after count rfl
  | createTable _ _ | dropTable _ | raw _ _ => exact checked.elim

theorem plainText_limit (real : known.slotMark = '?') {plan : PagePlan} (offset : plan.offset.toNat ∈ numbers)
    (count : plan.count.toNat ∈ numbers) : PlainText known numbers ((Piece.limit plan).text known.dialect 1) := by
  have limit : PlainText known numbers " LIMIT " := plainText_phrase real (by simp [phrases])
  have comma : PlainText known numbers ", " := plainText_phrase real (by simp [phrases])
  have skip : PlainText known numbers " OFFSET " := plainText_phrase real (by simp [phrases])
  have skipped : PlainText known numbers (toString plan.offset.toNat) := plainText_number real offset
  have kept : PlainText known numbers (toString plan.count.toNat) := plainText_number real count
  cases known with
  | mysql =>
    have first := limit.append skipped (.inl rfl)
    have second := comma.append kept (.inl rfl)
    have whole := first.append second (.inr (by simp [isPunctuation, punctuation?]))
    rwa [← String.append_assoc] at whole
  | sqlite =>
    have first := limit.append kept (.inl rfl)
    have second := skip.append skipped (.inl rfl)
    have whole := first.append second (.inr (by simp [isPunctuation, punctuation?]))
    rwa [← String.append_assoc] at whole
  | numbered maxParams => cases real

/-- The numbers of limit clauses. -/
def limitNumbers (limits : List PagePlan) : List Nat := limits.flatMap fun plan => [plan.offset.toNat, plan.count.toNat]

theorem follows_limits (real : known.slotMark = '?') {limits : List PagePlan}
    (given : ∀ n ∈ limitNumbers limits, n ∈ numbers) :
    Follows known numbers (limits.map fun plan => [Piece.limit plan]).flatten := by
  induction limits with
  | nil => exact follows_nil
  | cons plan rest ih =>
    simp only [limitNumbers, List.flatMap_cons, List.mem_append] at given
    have plain := plainText_limit real (given _ (.inl (by simp))) (given plan.count.toNat (.inl (by simp)))
    have first : Follows known numbers [.limit plan] := ⟨flows_piece rfl plain, fun _ _ => trivial⟩
    exact first.append (ih fun n member => given n (.inr member))

end Clause

namespace Piece

def trusted? : Piece → Option String
  | .raw text => some text
  | _ => none

/-- Trusted expressions among pieces. -/
def trusted (pieces : List Piece) : List String := pieces.filterMap trusted?

theorem silent_trusted : Silent trusted? := ⟨fun _ => rfl, fun _ => rfl⟩

@[simp] theorem trusted_nil : trusted [] = [] := rfl

@[simp] theorem trusted_fixed (text : String) (rest : List Piece) : trusted (.fixed text :: rest) = trusted rest := rfl

@[simp] theorem trusted_name (name : String) (rest : List Piece) : trusted (.name name :: rest) = trusted rest := rfl

@[simp] theorem trusted_slot (value : Value) (rest : List Piece) : trusted (.slot value :: rest) = trusted rest := rfl

@[simp] theorem trusted_append (first second : List Piece) : trusted (first ++ second) = trusted first ++ trusted second :=
  List.filterMap_append

@[simp] theorem trusted_separated (separator : String) (groups : List (List Piece)) :
    trusted (separated separator groups) = groups.flatMap trusted :=
  silent_trusted.separated separator groups

theorem trusted_spaced {pieces : List Piece} (spaced : Spaced pieces) : trusted pieces = [] := by
  induction spaced with
  | nil => rfl
  | settled _ _ _ ih | fixed _ _ _ ih | name _ _ _ ih | slot _ _ _ ih => exact ih

theorem texts_steady {dialect : Dialect} (steady : ∀ index, dialect.placeholder index = dialect.placeholder 1)
    (pieces : List Piece) (index : Nat) : texts dialect index pieces = pieces.map (text dialect 1) := by
  induction pieces generalizing index with
  | nil => rfl
  | cons piece rest ih =>
    rw [texts, ih, List.map_cons]
    cases piece with
    | slot value => exact congrArg (List.cons · _) (steady index)
    | _ => rfl

theorem trusted_eq_texts (dialect : Dialect) (pieces : List Piece) :
    (pieces.filter isTrusted).map (text dialect 1) = trusted pieces := by
  induction pieces with
  | nil => rfl
  | cons piece rest ih =>
    cases piece with
    | raw text => exact congrArg (List.cons text) ih
    | _ => exact ih

theorem trusted_slots (values : List Value) : trusted (slots values) = [] := by
  simp [slots]

theorem trusted_where {filter : List Formula} (sound : AllSound filter) : trusted (Formula.wherePieces filter) = [] := by
  unfold Formula.wherePieces
  split
  · rfl
  · rw [trusted_fixed, trusted_spaced (spaced_allPieces sound)]

theorem trusted_table (table : TableRef) : trusted table.pieces = [] := silent_trusted.table table

theorem trusted_limits (limits : List PagePlan) : trusted (limits.map fun plan => [.limit plan]).flatten = [] := by
  induction limits with
  | nil => rfl
  | cons plan rest ih => exact ih

end Piece

/-- The expression of an item that is one. -/
def Item.trusted? : Item → Option String
  | .expression text => some text
  | _ => none

/-- The expression to join on. -/
def RowSource.trusted (source : RowSource) : List String := (source.join.map JoinedTable.expression).toList

/-- Projected expressions, and then the expression to join on. -/
def Query.trusted (query : Query) : List String := query.items.filterMap Item.trusted? ++ query.source.trusted

def Command.trusted : Command → List String
  | .select query | .countResult query => query.trusted
  | .countRows source _ => source.trusted
  | _ => []

theorem RowSource.trusted_pieces (source : RowSource) : Piece.trusted source.pieces = source.trusted := by
  rw [Piece.trusted, Piece.silent_trusted.source, trusted]
  cases source.join <;> rfl

theorem Query.trusted_pieces {query : Query} (checked : query.Checked) : Piece.trusted query.pieces = query.trusted := by
  have items : (query.items.flatMap fun item => item.pieces.filterMap Piece.trusted?) = query.items.filterMap Item.trusted? := by
    rw [List.filterMap_eq_flatMap_toList]
    congr
    funext item
    cases item <;> rfl
  have clause : (Formula.wherePieces query.filter).filterMap Piece.trusted? = [] := Piece.trusted_where checked.filter
  rw [Piece.trusted, Piece.silent_trusted.query, items, clause, List.append_nil, Query.trusted, RowSource.trusted]
  cases query.source.join <;> rfl

theorem Command.trusted_sections {command : Command} (checked : command.Checked) :
    Piece.trusted command.sections.flatten = command.trusted := by
  cases command with
  | insert table columns rows =>
    simp [sections, trusted, Piece.trusted_table, List.flatMap_map, Piece.trusted_slots]
  | updateByKey table key columns keys =>
    have arms (arms : List (Value × Value)) : Piece.trusted (casePieces key arms) = [] := by
      induction arms with
      | nil => rfl
      | cons arm rest ih => exact ih
    simp [sections, trusted, Piece.trusted_table, List.flatMap_map, arms, Piece.trusted_slots]
  | updateWhere table columns filter =>
    simp [sections, trusted, Piece.trusted_table, List.flatMap_map, Piece.trusted_where checked.2.2]
  | delete table filter => simp [sections, trusted, Piece.trusted_table, Piece.trusted_where checked.2]
  | select query => simp [sections, trusted, Query.trusted_pieces checked]
  | countRows source filter => simp [sections, trusted, RowSource.trusted_pieces, Piece.trusted_where checked.2]
  | countResult query => simp [sections, trusted, Query.trusted_pieces checked]
  | createTable _ _ | dropTable _ | raw _ _ => exact checked.elim

namespace Statement
open Piece

/-- Where placeholders do not show their number, sections are one list of pieces. -/
theorem text_flatten {dialect : Dialect} (steady : ∀ index, dialect.placeholder index = dialect.placeholder 1)
    (statement : Statement) :
    statement.text dialect = String.join (statement.sections.flatten.map (Piece.text dialect 1)) := by
  rw [text]
  induction statement.sections with
  | nil => rfl
  | cons section_ rest ih =>
    rw [List.map_cons, String.join_cons, ih, List.flatten_cons, List.map_append, String.join_append, Piece.join,
      texts_steady steady]

/-- A text that is plain around trusted expressions: the statement has these, in order, and between them its own text. -/
def PlainAround (known : Known) (numbers : List Nat) (trusted : List String) (text : String) : Prop :=
  ∃ template : Template, template.places = trusted.length ∧ text = template.fill trusted ∧
    ∀ part ∈ template.opening :: template.rest, PlainText known numbers part

theorem PlainAround.whole {known : Known} {numbers : List Nat} {text : String} (plain : PlainAround known numbers [] text) :
    PlainText known numbers text := by
  obtain ⟨⟨opening, rest⟩, none, rfl, parts⟩ := plain
  obtain rfl : rest = [] := List.eq_nil_of_length_eq_zero none
  have filled : Template.fill ⟨opening, []⟩ [] = opening := Template.fill_plain opening
  rw [filled]
  exact parts opening List.mem_cons_self

theorem plainAround_text {known : Known} (real : known.slotMark = '?') {statement : Statement}
    (checked : statement.command.Checked) :
    PlainAround known (limitNumbers statement.limits) statement.command.trusted (statement.text known.dialect) := by
  have steady (index : Nat) : known.dialect.placeholder index = known.dialect.placeholder 1 := by
    cases known with
    | mysql | sqlite => rfl
    | numbered maxParams => cases real
  have limits : Follows known (limitNumbers statement.limits) (statement.limits.map fun plan => [.limit plan]).flatten :=
    follows_limits real fun _ member => member
  have whole := (flows_command real checked).followed limits
  -- both texts come from one list of pieces, cut at the trusted ones or not
  have guarded := whole [] trivial .nil
  have pieces : statement.sections.flatten =
      statement.command.sections.flatten ++ (statement.limits.map fun plan => [.limit plan]).flatten := List.flatten_append
  rw [List.append_nil, ← pieces] at guarded
  have trusted : Piece.trusted statement.sections.flatten = statement.command.trusted := by
    rw [pieces, trusted_append, Command.trusted_sections checked, trusted_limits, List.append_nil]
  refine ⟨own known statement.sections.flatten, ?_, ?_, guarded.plain⟩
  · rw [own, Template.places_ofPieces, ← trusted, ← trusted_eq_texts known.dialect, List.length_map]
  · rw [text_flatten steady, ← trusted, ← trusted_eq_texts known.dialect, own, Template.fill_texts]

end Statement

end RecordMapper
