import RecordMapper.Proofs.Templates
import RecordMapper.Proofs.UpdateBatches

/-! The text of an update of a batch. Its parameters stand column by column, each column with a key and a new value for
every record, and the keys once more at the end; with the parameters written into its places, it is a choice on the key
for every column. -/

namespace RecordMapper

namespace Piece

/-- The text of a piece, where a parameter is written out. -/
def printedOne (dialect : Dialect) (print : Value → String) : Piece → String
  | .slot value => print value
  | piece => piece.text dialect 1

def printed (dialect : Dialect) (print : Value → String) (pieces : List Piece) : String :=
  String.join (pieces.map (printedOne dialect print))

section

variable {dialect : Dialect} {print : Value → String}

theorem printed_cons (piece : Piece) (rest : List Piece) :
    printed dialect print (piece :: rest) = printedOne dialect print piece ++ printed dialect print rest := by
  rw [printed, List.map_cons, String.join_cons]
  rfl

theorem printed_append (first second : List Piece) :
    printed dialect print (first ++ second) = printed dialect print first ++ printed dialect print second := by
  rw [printed, List.map_append, String.join_append]
  rfl

theorem printed_flatMap (pieces : α → List Piece) (items : List α) :
    printed dialect print (items.flatMap pieces) = String.join (items.map fun item => printed dialect print (pieces item)) := by
  induction items with
  | nil => rfl
  | cons item rest ih => rw [List.flatMap_cons, printed_append, ih, List.map_cons, String.join_cons]

theorem printed_separated (separator : String) (groups : List (List Piece)) :
    printed dialect print (separated separator groups) =
      String.intercalate separator (groups.map (printed dialect print)) := by
  induction groups with
  | nil => rfl
  | cons group rest ih =>
    cases rest with
    | nil => simp [separated]
    | cons second rest =>
      have split : separated separator (group :: second :: rest) =
        group ++ .fixed separator :: separated separator (second :: rest) := rfl
      rw [split, printed_append, printed_cons, ih, List.map_cons, List.map_cons, List.map_cons,
        String.intercalate_cons_cons, String.append_assoc]
      rfl

/-- Without parameters it matters neither what they would be numbered from nor how they would be written out. -/
theorem texts_eq_map {pieces : List Piece} (unbound : params pieces = []) (index : Nat) :
    texts dialect index pieces = pieces.map (printedOne dialect print) := by
  induction pieces generalizing index with
  | nil => rfl
  | cons piece rest ih =>
    cases piece with
    | slot value => cases unbound
    | fixed _ | name _ | raw _ | type _ _ | limit _ => exact congrArg (List.cons _) (ih unbound _)

theorem join_eq_printed {pieces : List Piece} (unbound : params pieces = []) :
    join dialect pieces = printed dialect print pieces := by
  rw [join, texts_eq_map unbound, printed]

theorem printed_slots (values : List Value) :
    printed dialect print (slots values) = "(" ++ String.intercalate ", " (values.map print) ++ ")" := by
  have each : (fun value => printed dialect print [.slot value]) = print := by
    funext value
    simp [printed, printedOne]
  rw [slots, printed_cons, printed_append, printed_separated, List.map_map, Function.comp_def, each, String.append_assoc]
  simp [printed, printedOne, text]

theorem printed_casePieces (key : String) (arms : List (Value × Value)) :
    printed dialect print (casePieces key arms) =
      "CASE " ++ dialect.quote key ++
        String.join (arms.map fun (given, result) => " WHEN " ++ print given ++ " THEN " ++ print result) ++ " END" := by
  have arm : (fun arm : Value × Value =>
      printed dialect print [.fixed " WHEN ", .slot arm.1, .fixed " THEN ", .slot arm.2]) =
        fun arm => " WHEN " ++ print arm.1 ++ " THEN " ++ print arm.2 := by
    funext arm
    simp [printed, printedOne, text, String.append_assoc]
  rw [casePieces, printed_cons, printed_cons, printed_append, printed_flatMap, arm]
  simp [printed, printedOne, text, String.append_assoc]

end

end Piece

/-- Pieces with their parameters in the places are the text that has them written out. -/
theorem Template.fill_params (dialect : Dialect) (print : Value → String) (pieces : List Piece) :
    (atSlots dialect pieces).fill ((Piece.params pieces).map print) = Piece.printed dialect print pieces := by
  induction pieces with
  | nil => exact fill_plain ""
  | cons piece rest ih =>
    rw [Piece.printed_cons, atSlots]
    cases piece with
    | slot value =>
      rw [Piece.params_slot, List.map_cons, fill_cons_cut rfl]
      exact congrArg _ ih
    | fixed _ | name _ | raw _ | type _ _ | limit _ =>
      rw [fill_cons_kept rfl]
      exact congrArg _ ih

def TableRef.quoted (dialect : Dialect) (table : TableRef) : String :=
  match table.database with
  | some database => dialect.quote database ++ "." ++ dialect.quote table.name
  | none => dialect.quote table.name

theorem TableRef.printed_pieces (dialect : Dialect) (print : Value → String) (table : TableRef) :
    Piece.printed dialect print table.pieces = table.quoted dialect := by
  obtain ⟨database, name⟩ := table
  cases database <;> simp [pieces, quoted, Piece.printed, Piece.printedOne, Piece.text, String.append_assoc]

namespace Statement

variable (metadata : Metadata) (table : TableRef) (records : List Record)

/-- The text of an update of a batch, where keys and values are written out. -/
def updateText (dialect : Dialect) (print : Value → String) : String :=
  let key := dialect.quote metadata.keyColumn
  let arm (field : Field) (record : Record) :=
    " WHEN " ++ print (metadata.keyIn record) ++ " THEN " ++ print (metadata.valueIn record field)
  let choice (field : Field) :=
    dialect.quote field.column ++ " = CASE " ++ key ++ String.join (records.map (arm field)) ++ " END"
  "UPDATE " ++ table.quoted dialect ++ " SET " ++ String.intercalate ", " (metadata.dataColumns.map choice) ++
    " WHERE " ++ key ++ " IN (" ++ String.intercalate ", " (records.map fun record => print (metadata.keyIn record)) ++ ")"

/-- The pieces of an update of a batch. -/
def updatePieces : List Piece :=
  let columns := metadata.dataColumns.map fun field => (field.column, armsOf metadata records field)
  .fixed "UPDATE " :: (table.pieces ++ .fixed " SET " ::
    (Piece.separated ", " (columns.map fun (column, arms) =>
        .name column :: .fixed " = " :: casePieces metadata.keyColumn arms) ++
      .fixed " WHERE " :: .name metadata.keyColumn :: .fixed " IN " :: Piece.slots (records.map metadata.keyIn)))

/-- Parameters stand column by column: a key and a value for each record, and at the end all keys. -/
theorem params_updateOf :
    (updateOf metadata table records).params =
      (metadata.dataColumns.flatMap fun field =>
        records.flatMap fun record => [metadata.keyIn record, metadata.valueIn record field]) ++
      records.map metadata.keyIn := by
  have arms (field : Field) :
      Piece.params (.name field.column :: .fixed " = " :: casePieces metadata.keyColumn (armsOf metadata records field)) =
        records.flatMap fun record => [metadata.keyIn record, metadata.valueIn record field] := by
    rw [Piece.params_name, Piece.params_fixed, casePieces, Piece.params_fixed, Piece.params_name, Piece.params_append,
      armsOf, List.flatMap_map, Piece.params, Piece.params, List.filterMap_flatMap]
    exact List.append_nil _
  have whole : (updateOf metadata table records).params = Piece.params (updatePieces metadata table records) ++ [] := rfl
  have silent : Piece.params table.pieces = [] := Piece.silent_value.table table
  rw [whole, List.append_nil, updatePieces, Piece.params_fixed, Piece.params_append, silent, List.nil_append,
    Piece.params_fixed, Piece.params_append, Piece.params_separated, Piece.params_fixed, Piece.params_name,
    Piece.params_fixed, Piece.params_slots, List.map_map, List.flatMap_map]
  exact congrArg (· ++ _) (List.flatMap_congr fun field _ => arms field)

theorem printed_updatePieces (dialect : Dialect) (print : Value → String) :
    Piece.printed dialect print (updatePieces metadata table records) =
      updateText metadata table records dialect print := by
  have choice (field : Field) :
      Piece.printed dialect print
          (.name field.column :: .fixed " = " :: casePieces metadata.keyColumn (armsOf metadata records field)) =
        dialect.quote field.column ++ " = CASE " ++ dialect.quote metadata.keyColumn ++
          String.join (records.map fun record =>
            " WHEN " ++ print (metadata.keyIn record) ++ " THEN " ++ print (metadata.valueIn record field)) ++ " END" := by
    rw [Piece.printed_cons, Piece.printed_cons, Piece.printed_casePieces, armsOf, List.map_map]
    simp only [Piece.printedOne, Piece.text, String.append_assoc, Function.comp_def]
    rfl
  have bracket (text : String) : " IN " ++ ("(" ++ text) = " IN (" ++ text := by
    rw [← String.append_assoc]
    rfl
  rw [updatePieces, Piece.printed_cons, Piece.printed_append, TableRef.printed_pieces, Piece.printed_cons,
    Piece.printed_append, Piece.printed_separated, List.map_map, List.map_map, Piece.printed_cons, Piece.printed_cons,
    Piece.printed_cons, Piece.printed_slots, List.map_map, updateText]
  simp only [Function.comp_def, choice, Piece.printedOne, Piece.text, String.append_assoc, bracket]

/-- The i-th place in the text is the placeholder of the i-th parameter, and stands where that parameter belongs. -/
theorem text_updateOf (dialect : Dialect) :
    ∃ template : Template, template.places = (updateOf metadata table records).params.length ∧
      (updateOf metadata table records).text dialect =
        template.fill (Template.numbered dialect.placeholder (updateOf metadata table records).params.length) ∧
      ∀ print, template.fill ((updateOf metadata table records).params.map print) =
        updateText metadata table records dialect print := by
  have params : (updateOf metadata table records).params = Piece.params (updatePieces metadata table records) :=
    List.append_nil _
  have text : (updateOf metadata table records).text dialect =
      String.join [Piece.join dialect (updatePieces metadata table records)] := rfl
  refine ⟨Template.atSlots dialect (updatePieces metadata table records), ?_, ?_, fun print => ?_⟩
  · rw [params, Template.places_atSlots]
  · rw [text, Template.fill_numbered dialect dialect.placeholder (by rw [params])]
    simp [Dialect.marking]
  · rw [params, Template.fill_params, printed_updatePieces]

end Statement

end RecordMapper
