import RecordMapper.Sql.Command

/-! What is picked from the pieces of a statement, such as its parameters. Who takes nothing from fixed texts and names takes
nothing from tables, columns, groups and orders either: from a query, only what its items, its join and its clause hold. -/

namespace RecordMapper

/-- Nothing is taken from fixed texts and names. -/
structure Piece.Silent (pick : Piece → Option α) : Prop where
  fixed (text : String) : pick (.fixed text) = none
  name (name : String) : pick (.name name) = none

namespace Piece.Silent

variable {pick : Piece → Option α} (silent : Silent pick)
include silent

theorem separated (separator : String) (groups : List (List Piece)) :
    (Piece.separated separator groups).filterMap pick = groups.flatMap (List.filterMap pick) := by
  induction groups with
  | nil => rfl
  | cons group rest ih =>
    cases rest with
    | nil => exact (List.append_nil _).symm
    | cons second rest =>
      have split : Piece.separated separator (group :: second :: rest) =
        group ++ .fixed separator :: Piece.separated separator (second :: rest) := rfl
      rw [split, List.filterMap_append, List.filterMap_cons_none (silent.fixed separator), ih]
      rfl

theorem column (column : ColumnRef) : column.pieces.filterMap pick = [] := by
  rw [ColumnRef.pieces, silent.separated, List.flatMap_map]
  exact List.flatMap_eq_nil_iff.mpr fun part _ => List.filterMap_cons_none (silent.name part)

theorem table (table : TableRef) : table.pieces.filterMap pick = [] := by
  obtain ⟨database, name⟩ := table
  cases database <;> simp [TableRef.pieces, silent.fixed, silent.name]

theorem aliased (aliasName : Option String) : (aliasPieces aliasName).filterMap pick = [] := by
  cases aliasName <;> simp [aliasPieces, silent.fixed, silent.name]

theorem source (source : RowSource) :
    source.pieces.filterMap pick = source.join.toList.filterMap fun join => pick (.raw join.expression) := by
  obtain ⟨table, aliasName, join⟩ := source
  cases join <;>
    simp [RowSource.pieces, JoinedTable.pieces, List.filterMap_append, silent.table, silent.aliased, silent.fixed,
      List.filterMap_cons]

theorem groups (groups : List ColumnRef) : (groupPieces groups).filterMap pick = [] := by
  unfold groupPieces
  split
  · rfl
  · rw [List.filterMap_cons_none (silent.fixed _), silent.separated, List.flatMap_map]
    exact List.flatMap_eq_nil_iff.mpr fun column _ => silent.column column

theorem sorts (sorts : List (ColumnRef × Order)) : (sortPieces sorts).filterMap pick = [] := by
  unfold sortPieces
  split
  · rfl
  · rw [List.filterMap_cons_none (silent.fixed _), silent.separated, List.flatMap_map]
    refine List.flatMap_eq_nil_iff.mpr fun sort _ => ?_
    rw [List.filterMap_append, silent.column, List.nil_append]
    exact List.filterMap_cons_none (silent.fixed _)

theorem query (query : Query) :
    query.pieces.filterMap pick =
      (query.items.flatMap fun item => item.pieces.filterMap pick) ++
        (query.source.join.toList.filterMap fun join => pick (.raw join.expression)) ++
        (Formula.wherePieces query.filter).filterMap pick := by
  simp only [Query.pieces, List.filterMap_cons_none (silent.fixed _), List.filterMap_append, silent.separated,
    List.flatMap_map, silent.source, silent.groups, silent.sorts, List.append_nil, List.append_assoc]

end Piece.Silent

namespace Piece

@[simp] theorem params_nil : params [] = [] := rfl

@[simp] theorem params_fixed (text : String) (rest : List Piece) : params (.fixed text :: rest) = params rest := rfl

@[simp] theorem params_name (name : String) (rest : List Piece) : params (.name name :: rest) = params rest := rfl

@[simp] theorem params_slot (value : Value) (rest : List Piece) : params (.slot value :: rest) = value :: params rest := rfl

theorem params_append (first second : List Piece) : params (first ++ second) = params first ++ params second :=
  List.filterMap_append

theorem silent_value : Silent value? := ⟨fun _ => rfl, fun _ => rfl⟩

theorem params_separated (separator : String) (groups : List (List Piece)) :
    params (separated separator groups) = groups.flatMap params :=
  silent_value.separated separator groups

theorem params_slots (values : List Value) : params (slots values) = values := by
  have inside : params (separated ", " (values.map fun value => [.slot value])) = values := by
    rw [params_separated, List.flatMap_map]
    exact List.flatMap_singleton' values
  rw [slots, params_fixed, params_append, inside]
  exact List.append_nil values

end Piece

end RecordMapper
