import RecordMapper.Proofs.Templates
import RecordMapper.Proofs.WhereGuard

/-! Placeholders of an update by condition. The SET list and the WHERE clause hold one placeholder for each of their
parameters, and the parameters stand in that order. Both halves number their placeholders from one, so a placeholder
tells which parameter it stands for only if it does not show its number, or if one half has no parameters. -/

namespace RecordMapper

theorem Formula.params_wherePieces (filter : List Formula) :
    Piece.params (wherePieces filter) = Piece.params (allPieces filter) := by
  cases filter <;> rfl

namespace Statement
open Outcome Clause

variable {database : Option String} {metadata : Metadata} {condition : Condition} {statement : Statement}

theorem params_settingPieces (table : TableRef) {columns : List String} {values : List Value}
    (same : columns.length = values.length) : Piece.params (settingPieces table (columns.zip values)) = values := by
  have each : (fun pair : String × Value => Piece.params [.name pair.1, .fixed " = ", .slot pair.2]) =
      fun pair => [pair.2] := rfl
  rw [settingPieces, Piece.params_fixed, Piece.params_append, params_table, List.nil_append, Piece.params_fixed,
    Piece.params_separated, List.flatMap_map, each, ← List.map_eq_flatMap, List.map_snd_zip (Nat.le_of_eq same.symm)]

theorem params_updateWhere (table : TableRef) {columns : List String} {values : List Value}
    (same : columns.length = values.length) (filter : List Formula) :
    params ⟨.updateWhere table (columns.zip values) filter, []⟩ = values ++ Piece.params (Formula.allPieces filter) := by
  have halves : params ⟨.updateWhere table (columns.zip values) filter, []⟩ =
      Piece.params (settingPieces table (columns.zip values)) ++ (Piece.params (Formula.wherePieces filter) ++ []) := rfl
  rw [halves, params_settingPieces table same, List.append_nil, Formula.params_wherePieces]

/-- Both halves of an update by condition count their placeholders from one. -/
theorem text_updateWhere (dialect : Dialect) (placeholder : Nat → String) (table : TableRef) {columns : List String}
    {values : List Value} (same : columns.length = values.length) {filter : List Formula} (filled : filter ≠ []) :
    text (dialect.marking placeholder) ⟨.updateWhere table (columns.zip values) filter, []⟩ =
      (Template.atSlots dialect (settingPieces table (columns.zip values))).fill
          (Template.numbered placeholder values.length) ++ " WHERE " ++
        (Template.atSlots dialect (Formula.allPieces filter)).fill
          (Template.numbered placeholder (Piece.params (Formula.allPieces filter)).length) := by
  have bound := congrArg List.length (params_settingPieces table same)
  have joined := join_wherePieces (dialect.marking placeholder) filled
  rw [Template.fill_numbered dialect placeholder bound, Template.fill_numbered dialect placeholder rfl, String.append_assoc,
    ← joined]
  simp [text, sections, Command.sections, settingPieces]

/-- The placeholders of an update by condition, counted from the left, are those of the SET list and then those of the WHERE
clause, each of them numbered from one, and the parameters are the new values and then those of the clause. In a dialect whose
placeholders do not show their number, or if the clause has no parameters, the i-th placeholder is therefore that of the
i-th parameter. -/
theorem update_placeholders_follow_params (dialect : Dialect)
    (made : updateByCondition database metadata condition = .ok statement) :
    ∃ (upset : Upset) (values : List Value) (setting clause : Template), condition.upset = some upset ∧
      statement.params = upset.values ++ values ∧
      setting.places = upset.values.length ∧ clause.places = values.length ∧
      (∀ placeholder,
        let whereText := clause.fill (Template.numbered placeholder values.length)
        whereClause (dialect.marking placeholder) condition = .ok (whereText, values) ∧
        statement.text (dialect.marking placeholder) =
          setting.fill (Template.numbered placeholder upset.values.length) ++ " WHERE " ++ whereText) ∧
      ((∀ index, dialect.placeholder index = dialect.placeholder 1) ∨ values = [] →
        statement.text dialect = ((setting.append (.plain " WHERE ")).append clause).fill
          (Template.numbered dialect.placeholder statement.params.length)) := by
  obtain ⟨upset, columns, filter, table, given, _, same, restricts, named, formulas, looked, rfl⟩ :=
    updateByCondition_eq_ok.mp made
  have length : columns.length = upset.values.length := by
    rw [← same, ← (mapM_eq_ok.mp named).length_eq]
  -- a condition that restricts the rows is false where all of its tests are, and no formulas at all would be true
  have filled : filter ≠ [] := by
    rintro rfl
    have fails : Clause.allValue allFail 0 [] = .no := fails_ofPredicates restricts formulas 0
    cases fails
  let setting := Template.atSlots dialect (settingPieces table (columns.zip upset.values))
  let clause := Template.atSlots dialect (Formula.allPieces filter)
  let values := Piece.params (Formula.allPieces filter)
  have first : setting.places = upset.values.length := by
    rw [Template.places_atSlots, params_settingPieces table length]
  have second : clause.places = values.length := Template.places_atSlots dialect _
  have params := params_updateWhere table length filter
  have texts (placeholder : Nat → String) := text_updateWhere dialect placeholder table length filled
  refine ⟨upset, values, setting, clause, given, params, first, second, fun placeholder => ⟨?_, texts placeholder⟩, ?_⟩
  · refine whereClause_eq_ok.mpr ⟨filter, formulas, ?_, rfl⟩
    exact Template.fill_numbered dialect placeholder rfl
  · intro steady
    have counts : (∀ index, dialect.placeholder index = dialect.placeholder 1) ∨ values.length = 0 :=
      steady.imp_right fun none => congrArg List.length none
    have marks : (Template.numbered dialect.placeholder upset.values.length).length = setting.places := by
      rw [Template.length_numbered, first]
    -- the clause counts from one again: its placeholders go on from those before only where they look alike
    rw [params, List.length_append, ← Template.numbered_append counts, Template.fill_joined setting clause _ marks]
    exact texts dialect.placeholder

end Statement

open Clause

def wallet : Metadata :=
  ⟨"Wallet", "wallet", [⟨"id", .int, false, true, none⟩, ⟨"appID", .text, false, false, none⟩,
    ⟨"ctime", .int, false, false, none⟩], "id", .int, false, []⟩

def walletChange : Condition where
  predicates := [.compare "id" (.versus .eq (.int 5))]
  upset := some ⟨["appID", "ctime"], [.text "b", .int 9]⟩

theorem wallet_change_follows_params :
    ∃ statement template, Statement.updateByCondition none wallet walletChange = .ok statement ∧
      statement.params = [.text "b", .int 9, .int 5] ∧ Template.places template = 3 ∧
      statement.text .sqlite = template.fill ["?", "?", "?"] := by
  obtain ⟨upset, values, setting, clause, given, params, first, second, _, ordered⟩ :=
    Statement.update_placeholders_follow_params .sqlite
      (rfl : Statement.updateByCondition none wallet walletChange = .ok _)
  cases given
  have rest : values = [.int 5] := List.append_cancel_left params.symm
  refine ⟨_, (setting.append (.plain " WHERE ")).append clause, rfl, rfl, ?_, ordered (.inl fun _ => rfl)⟩
  rw [Template.places_append, Template.places_append, first, second, rest]
  rfl

/-- Where placeholders show their number, the WHERE clause has the placeholder of the first new value again. -/
theorem numbered_wallet_change_repeats_placeholder :
    ∃ statement, Statement.updateByCondition none wallet walletChange = .ok statement ∧
      statement.params = [.text "b", .int 9, .int 5] ∧
      statement.text (.numbered 9) = "UPDATE [wallet] SET [appID] = $1, [ctime] = $2 WHERE [id] = $1" ∧
      (lexemes? (.numbered 9) (statement.text (.numbered 9)).toList).map slots = some ["$1", "$2", "$1"] ∧
      Template.numbered (Dialect.numbered 9).placeholder statement.params.length = ["$1", "$2", "$3"] :=
  ⟨_, rfl, rfl, by decide, by decide, by decide⟩

end RecordMapper
