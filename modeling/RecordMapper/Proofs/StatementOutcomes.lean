import RecordMapper.Proofs.Outcomes
import RecordMapper.Sql.Reads

/-! What a statement that has been made consists of, and what was checked on the way. Later proofs take a made statement
apart here and do not look into how it is made. -/

namespace RecordMapper.Statement
open Outcome

variable {database : Option String} {metadata : Metadata} {condition : Condition} {statement : Statement}

theorem make_eq_ok {name : String} {table : TableRef} :
    TableRef.make database name = .ok table ↔
      Name.check name = .ok () ∧ (∀ owner, database = some owner → owner ≠ "" → Name.check owner = .ok ()) ∧
        table = ⟨database.filter (· ≠ ""), name⟩ := by
  simp only [TableRef.make, bind_eq_ok, checkedName_eq_ok, exists_and_left, exists_const]
  refine and_congr_right fun _ => ?_
  cases database with
  | none =>
    rw [pure_eq_ok, eq_comm]
    simp
  | some owner =>
    by_cases unnamed : owner = ""
    · subst unnamed
      have none_ : (some "").filter (· ≠ "") = none := rfl
      have empty : "".isEmpty = true := rfl
      rw [none_]
      simp only [empty, ↓reduceIte, pure_eq_ok, eq_comm (b := table)]
      simp
    · have owned : (some owner).filter (· ≠ "") = some owner := by simp [Option.filter, unnamed]
      rw [owned]
      simp only [String.isEmpty_iff, unnamed, ↓reduceIte, bind_eq_ok, pure_eq_ok, checkedName_eq_ok, eq_comm (b := table)]
      simp [unnamed]

theorem insert_eq_ok {records : List Record} : insert database metadata records = .ok statement ↔
    ∃ rows table, records ≠ [] ∧ records.mapM (fun record => metadata.valuesOf record metadata.columns) = .ok rows ∧
      TableRef.make database metadata.table = .ok table ∧
      statement = ⟨.insert table (metadata.columns.map Field.column) rows, []⟩ := by
  simp only [insert, guarded_eq_ok, bind_eq_ok, pure_eq_ok, List.isEmpty_iff]
  constructor
  · rintro ⟨some, rows, bound, table, within, rfl⟩
    exact ⟨rows, table, some, bound, within, rfl⟩
  · rintro ⟨rows, table, some, bound, within, rfl⟩
    exact ⟨some, rows, bound, table, within, rfl⟩

theorem deleteByIds_eq_ok {ids : List Value} : deleteByIds database metadata ids = .ok statement ↔
    ∃ table, ids ≠ [] ∧ ids.any Value.isZero = false ∧ TableRef.make database metadata.table = .ok table ∧
      statement = ⟨.delete table [.among (.ofName metadata.keyColumn) false ids], []⟩ := by
  simp only [deleteByIds, guarded_eq_ok, bind_eq_ok, pure_eq_ok, List.isEmpty_iff, Bool.not_eq_true]
  constructor
  · rintro ⟨some, keyed, table, within, rfl⟩
    exact ⟨table, some, keyed, within, rfl⟩
  · rintro ⟨table, some, keyed, within, rfl⟩
    exact ⟨some, keyed, table, within, rfl⟩

theorem deleteByCondition_eq_ok : deleteByCondition database metadata condition = .ok statement ↔
    ∃ filter table, condition.restrictsRows = true ∧ condition.formulas = .ok filter ∧
      TableRef.make database metadata.table = .ok table ∧ statement = ⟨.delete table filter, []⟩ := by
  simp only [deleteByCondition, guarded_eq_ok, bind_eq_ok, pure_eq_ok, Bool.not_eq_true', Bool.not_eq_false]
  constructor
  · rintro ⟨restricts, filter, formulas, table, within, rfl⟩
    exact ⟨filter, table, restricts, formulas, within, rfl⟩
  · rintro ⟨filter, table, restricts, formulas, within, rfl⟩
    exact ⟨restricts, filter, formulas, table, within, rfl⟩

theorem updateByCondition_eq_ok : updateByCondition database metadata condition = .ok statement ↔
    ∃ upset columns filter table, condition.upset = some upset ∧ upset.keys ≠ [] ∧
      upset.keys.length = upset.values.length ∧ condition.restrictsRows = true ∧
      upset.keys.mapM (settable metadata) = .ok columns ∧ condition.formulas = .ok filter ∧
      TableRef.make database metadata.table = .ok table ∧
      statement = ⟨.updateWhere table (columns.zip upset.values) filter, []⟩ := by
  unfold updateByCondition
  cases given : condition.upset with
  | none => simp [throw_bind_ne_ok]
  | some upset =>
    simp only [guarded_eq_ok, pure_bind, bind_eq_ok, pure_eq_ok, List.isEmpty_iff, ne_eq, not_not, Bool.not_eq_true',
      Bool.not_eq_false]
    constructor
    · rintro ⟨some, same, restricts, columns, named, filter, formulas, table, within, rfl⟩
      exact ⟨upset, columns, filter, table, rfl, some, same, restricts, named, formulas, within, rfl⟩
    · rintro ⟨_, columns, filter, table, found, some, same, restricts, named, formulas, within, rfl⟩
      cases found
      exact ⟨some, same, restricts, columns, named, filter, formulas, table, within, rfl⟩

theorem select_eq_ok : select database metadata condition = .ok statement ↔
    ∃ filter items table groups sorts, condition.formulas = .ok filter ∧ projection metadata condition = .ok items ∧
      TableRef.make database metadata.table = .ok table ∧ condition.groupRefs = .ok groups ∧
      condition.sortRefs = .ok sorts ∧ statement = ⟨.select { items, source := { table }, filter, groups, sorts }, []⟩ := by
  simp only [select, bind_eq_ok, pure_eq_ok]
  constructor
  · rintro ⟨filter, formulas, items, projected, table, within, groups, grouped, sorts, sorted, rfl⟩
    exact ⟨filter, items, table, groups, sorts, formulas, projected, within, grouped, sorted, rfl⟩
  · rintro ⟨filter, items, table, groups, sorts, formulas, projected, within, grouped, sorted, rfl⟩
    exact ⟨filter, formulas, items, projected, table, within, groups, grouped, sorts, sorted, rfl⟩

/-- A joined table and its alias are the words of the join, of which there is one or two. -/
theorem joinedTable_eq_ok {join : Join} {joined : JoinedTable} :
    joinedTable database join = .ok joined ↔
      Text.words join.table = joined.table.name :: joined.aliasName.toList ∧
        TableRef.make database joined.table.name = .ok joined.table ∧
        (∀ name ∈ joined.aliasName, Name.check name = .ok ()) ∧ Text.allBlank join.expression = false ∧
        joined.kind = join.kind ∧ joined.expression = join.expression := by
  unfold joinedTable
  constructor
  · intro made
    split at made
    next => cases made
    next name rest split =>
      rw [split]
      simp only [bind_eq_ok] at made
      obtain ⟨table, within, made⟩ := made
      obtain ⟨_, _, rfl⟩ := make_eq_ok.mp within
      cases rest with
      | nil =>
        simp only [pure_bind, guarded_eq_ok, pure_eq_ok] at made
        obtain ⟨_, filled, rfl⟩ := made
        exact ⟨rfl, within, nofun, by simpa using filled, rfl, rfl⟩
      | cons second others =>
        simp only [bind_eq_ok, pure_bind, guarded_eq_ok, pure_eq_ok, checkedName_eq_ok] at made
        obtain ⟨_, named, few, filled, rfl⟩ := made
        have last : others = [] := by simpa using few
        subst last
        exact ⟨rfl, within, by simpa using named, by simpa using filled, rfl, rfl⟩
  · rintro ⟨split, within, named, filled, kind, expression⟩
    obtain ⟨_, table, aliasName, _⟩ := joined
    cases kind
    cases expression
    rw [split]
    simp only [bind_eq_ok]
    refine ⟨table, within, ?_⟩
    cases aliasName with
    | none =>
      simp only [Option.toList_none, filled]
      rfl
    | some second =>
      have checked : checkedName (Name.check second) = .ok () := checkedName_eq_ok.mpr (named second rfl)
      simp only [Option.toList_some, filled, checked]
      rfl

theorem complexSource_eq_ok {source : RowSource} :
    complexSource database condition = .ok source ↔
      ∃ from_, condition.source = some from_ ∧ Name.check from_.aliasName = .ok () ∧
        TableRef.make database from_.table = .ok source.table ∧ source.aliasName = some from_.aliasName ∧
        Option.Rel (fun join joined => joinedTable database join = .ok joined) condition.join source.join := by
  unfold complexSource
  cases condition.source with
  | none => exact iff_of_false nofun nofun
  | some from_ =>
    simp only [bind_eq_ok, checkedName_eq_ok]
    constructor
    · rintro ⟨_, named, table, within, made⟩
      cases given : condition.join with
      | none =>
        rw [given] at made
        cases made
        exact ⟨from_, rfl, named, within, rfl, .none⟩
      | some join =>
        simp only [given, bind_eq_ok, pure_eq_ok] at made
        obtain ⟨joined, found, rfl⟩ := made
        exact ⟨from_, rfl, named, within, rfl, .some found⟩
    · obtain ⟨table, aliasName, join⟩ := source
      rintro ⟨_, ⟨⟩, named, within, rfl, joined⟩
      refine ⟨(), named, table, within, ?_⟩
      generalize condition.join = asked at joined ⊢
      cases joined with
      | none => rfl
      | some found => simp only [found]; rfl

theorem selectComplex_eq_ok : selectComplex database condition = .ok statement ↔
    ∃ source filter groups sorts, condition.fields ≠ [] ∧ complexSource database condition = .ok source ∧
      condition.formulas = .ok filter ∧ condition.groupRefs = .ok groups ∧ condition.sortRefs = .ok sorts ∧
      statement = ⟨.select { items := condition.fields.map .expression, source, filter, groups, sorts }, []⟩ := by
  simp only [selectComplex, guarded_eq_ok, bind_eq_ok, pure_eq_ok, List.isEmpty_iff]
  constructor
  · rintro ⟨some, source, from_, filter, formulas, groups, grouped, sorts, sorted, rfl⟩
    exact ⟨source, filter, groups, sorts, some, from_, formulas, grouped, sorted, rfl⟩
  · rintro ⟨source, filter, groups, sorts, some, from_, formulas, grouped, sorted, rfl⟩
    exact ⟨some, source, from_, filter, formulas, groups, grouped, sorts, sorted, rfl⟩

theorem exists_eq_ok : exists? database metadata condition = .ok statement ↔
    ∃ filter table, condition.formulas = .ok filter ∧ TableRef.make database metadata.table = .ok table ∧
      statement = ⟨.select { items := [.one], source := { table }, filter }, [⟨0, 1⟩]⟩ := by
  simp only [exists?, bind_eq_ok, pure_eq_ok]
  constructor
  · rintro ⟨filter, formulas, table, within, rfl⟩
    exact ⟨filter, table, formulas, within, rfl⟩
  · rintro ⟨filter, table, formulas, within, rfl⟩
    exact ⟨filter, formulas, table, within, rfl⟩

/-- A count is that of a complex read, or of the rows or groups of one table. -/
theorem count_eq_ok {counted : Option Metadata} : count database counted condition = .ok statement ↔
    ∃ filter groups, condition.formulas = .ok filter ∧ condition.groupRefs = .ok groups ∧
      ((condition.isComplex = true ∧ condition.fields ≠ [] ∧ ∃ source, complexSource database condition = .ok source ∧
          statement = ⟨.countResult { items := condition.fields.map .expression, source, filter, groups }, []⟩) ∨
        condition.isComplex = false ∧ ∃ table, countedTable database counted = .ok table ∧
          statement = if groups.isEmpty then ⟨.countRows { table } filter, []⟩
            else ⟨.countResult { items := [.oneAs "_one"], source := { table }, filter, groups }, []⟩) := by
  simp only [count, bind_eq_ok]
  constructor
  · rintro ⟨filter, formulas, groups, grouped, made⟩
    refine ⟨filter, groups, formulas, grouped, ?_⟩
    split at made
    next complex =>
      simp only [guarded_eq_ok, bind_eq_ok, pure_eq_ok, List.isEmpty_iff] at made
      obtain ⟨some, source, from_, rfl⟩ := made
      exact .inl ⟨complex, some, source, from_, rfl⟩
    next simple =>
      simp only [bind_eq_ok] at made
      obtain ⟨table, within, made⟩ := made
      refine .inr ⟨by simpa using simple, table, within, ?_⟩
      split at made
      next none =>
        cases made
        rw [if_pos none]
      next filled =>
        cases made
        rw [if_neg filled]
  · rintro ⟨filter, groups, formulas, grouped, ⟨complex, some, source, from_, rfl⟩ | ⟨simple, table, within, rfl⟩⟩
    · refine ⟨filter, formulas, groups, grouped, ?_⟩
      simp only [complex, ↓reduceIte, guarded_eq_ok, bind_eq_ok, pure_eq_ok, List.isEmpty_iff]
      exact ⟨some, source, from_, rfl⟩
    · refine ⟨filter, formulas, groups, grouped, ?_⟩
      simp only [simple, Bool.false_eq_true, ↓reduceIte, bind_eq_ok]
      refine ⟨table, within, ?_⟩
      split <;> rfl

end RecordMapper.Statement
