import RecordMapper.Proofs.GroupedRows
import RecordMapper.Proofs.MatchedRows
import RecordMapper.Proofs.StoredReads

/-! Whether a condition has rows, and how many. Both calls read the same table and filter as long as the condition has no
source of its own, and groups are there exactly if rows are. -/

namespace RecordMapper

/-- Surroundings with a database that pages and counts queries without trusted text. Groups of ones are parts of the ones, if
the filter does not name their label. -/
structure Surroundings.Gathers (s : Surroundings σ) (state : σ → Prop) (bound : Nat) (result : Query → Option (List Row)) :
    Prop where
  pages {query : Query} (plain : query.isTrusting = false) : s.Pages state bound query (result query)
  tallies {query : Query} (plain : query.isTrusting = false) : s.Tallies state query (result query)
  groups {source : RowSource} {filter : List Formula} {groups : List ColumnRef} (filled : groups ≠ []) {label : String}
    (unnamed : ¬ Formula.names filter label) {rows gathered : List Row}
    (ones : result { items := [.one], source, filter } = some rows)
    (grouped : result { items := [.oneAs label], source, filter, groups } = some gathered) : Gathered rows gathered

theorem World.gathers (registry : Registry) (hasStore : Bool) (name : String) (database : Database) :
    (surroundings registry hasStore name).Gathers (Links name database) Word.signedBound database.result where
  pages plain := pages registry hasStore name database plain
  tallies plain := tallies registry hasStore name database plain
  groups filled label unnamed rows gathered ones grouped := by
    have ran {query : Query} {rows : List Row} (known : database.result query = some rows) :
        query.run database.tables = .ok rows := by
      unfold Database.result at known
      split at known
      · cases known
      · cases outcome : query.run database.tables with
        | ok found =>
          rw [outcome] at known
          exact congrArg Except.ok (Option.some.inj known)
        | error fault =>
          rw [outcome] at known
          cases known
    exact Query.gathered_ones filled unnamed (ran ones) (ran grouped)

namespace Work

theorem boundModel_ok {s : Surroundings σ} {first second : String} {condition : Condition} {metadata : Metadata}
    (bound : boundModel s first condition = .ok metadata) : boundModel s second condition = .ok metadata := by
  unfold boundModel at bound ⊢
  split at bound
  · cases bound
  · exact bound

section

variable {s : Surroundings σ} {state : σ → Prop} {bound : Nat} {result : Query → Option (List Row)}
  (gathers : s.Gathers state bound result) {condition : Condition} {scene : Scene σ}
  (unclosed : scene.work.isClosed = false) (kept : state scene.world)
include gathers unclosed kept

theorem exists_ok {found : Bool} (looked : (exists? s condition scene).1 = .ok found) :
    ∃ metadata filter table rows, boundModel s "exists" condition = .ok metadata ∧ condition.formulas = .ok filter ∧
      TableRef.make scene.work.options.database metadata.table = .ok table ∧
      result { items := [.one], source := { table }, filter } = some rows ∧ (found = true ↔ 0 < rows.length) := by
  obtain ⟨metadata, middle, asked, ran⟩ := run_bind_ok.mp (recorded_ok.mp (Prod.ext looked rfl))
  obtain ⟨bound_, rfl⟩ := run_outcome_ok.mp asked
  obtain ⟨_, _, got, ran⟩ := run_bind_ok.mp ran
  cases got
  obtain ⟨statement, _, made, ran⟩ := run_bind_ok.mp ran
  obtain ⟨made, rfl⟩ := run_outcome_ok.mp made
  obtain ⟨filter, table, tested, named, rfl⟩ := Statement.exists_eq_ok.mp made
  obtain ⟨first, later, read, given⟩ := run_bind_ok.mp ran
  cases given
  let ones : Query := { items := [.one], source := { table }, filter }
  have pages : s.Pages state bound ones (result ones) := gathers.pages rfl
  have serves := pages.page (some ⟨0, 1⟩)
  obtain ⟨page, served, head⟩ := fetchFirst_ok unclosed (pages.note kept) serves (congrArg Prod.fst read)
  rw [slicedPage] at served
  split at served
  · obtain ⟨rows, known, rfl⟩ := Option.map_eq_some_iff.mp served
    refine ⟨metadata, filter, table, rows, bound_, tested, named, known, ?_⟩
    rw [head]
    cases rows with
    | nil => exact iff_of_false Bool.false_ne_true (Nat.lt_irrefl 0)
    | cons row rest => exact iff_of_true rfl (Nat.succ_pos _)
  · cases served

theorem countRows_ok {metadata : Option Metadata} {total : UInt64}
    (counted : ((countRows s metadata condition).run scene).1 = .ok total) :
    ∃ statement, Statement.count scene.work.options.database metadata condition = .ok statement ∧
      ∀ query, statement.counted? = some query → query.isTrusting = false →
        ∃ rows, result query = some rows ∧ (rows.length < Word.signedBound → total = UInt64.ofNat rows.length) := by
  obtain ⟨_, _, got, ran⟩ := run_bind_ok.mp (Prod.ext counted rfl)
  cases got
  obtain ⟨statement, _, made, ran⟩ := run_bind_ok.mp ran
  obtain ⟨made, rfl⟩ := run_outcome_ok.mp made
  refine ⟨statement, made, fun query counts plain => ?_⟩
  obtain ⟨first, later, read, given⟩ := run_bind_ok.mp ran
  obtain ⟨given, _⟩ := run_outcome_ok.mp given
  have tallies := gathers.tallies plain
  obtain ⟨row, served, head⟩ := fetchFirst_ok unclosed (tallies.note kept) (tallies.count counts) (congrArg Prod.fst read)
  obtain ⟨rows, known, rfl⟩ := Option.map_eq_some_iff.mp served
  refine ⟨rows, known, fun fits => ?_⟩
  rw [head, List.head?_cons, totalOf_count fits] at given
  exact (Except.ok.inj given).symm

/-- What is counted for a condition without a source: ones of the model's table, or of its groups. -/
theorem count_ok (simple : condition.source = none) {total : UInt64} (counted : (count s condition scene).1.1 = .ok total) :
    ∃ metadata filter groups table rows, boundModel s "count" condition = .ok metadata ∧ condition.formulas = .ok filter ∧
      condition.groupRefs = .ok groups ∧ TableRef.make scene.work.options.database metadata.table = .ok table ∧
      result (if groups.isEmpty then { items := [.one], source := { table }, filter }
        else { items := [.oneAs "_one"], source := { table }, filter, groups }) = some rows ∧
      Matches s result scene.work.options.database condition rows.length ∧
      (rows.length < Word.signedBound → total = UInt64.ofNat rows.length) := by
  have alone : condition.isComplex = false := by
    rw [Condition.isComplex, simple]
    rfl
  have outcome : (recorded (do
      let metadata ← (countedModel s condition : Outcome (Option Metadata))
      countRows s metadata condition) scene).1 = .ok total := by
    rw [count_eq, act_bind] at counted
    generalize recorded _ scene = reached at counted ⊢
    obtain ⟨outcome, later⟩ := reached
    cases outcome <;> exact counted
  obtain ⟨_, middle, asked, ran⟩ := run_bind_ok.mp (recorded_ok.mp (Prod.ext outcome rfl))
  obtain ⟨bound_, unmoved⟩ := run_outcome_ok.mp asked
  rw [unmoved] at ran
  rw [countedModel, alone] at bound_
  cases looked : boundModel s "count" condition with
  | error failure =>
    rw [looked] at bound_
    cases bound_
  | ok metadata =>
    rw [looked] at bound_
    cases bound_
    obtain ⟨statement, made, tallied⟩ := countRows_ok gathers unclosed kept (congrArg Prod.fst ran)
    have whole : countStatement s scene.work.options.database condition = .ok statement := by
      rw [countStatement, countedModel, alone, if_neg Bool.false_ne_true, looked]
      exact made
    obtain ⟨filter, groups, tested, grouped, form⟩ := Statement.count_eq_ok.mp made
    rcases form with ⟨complex, _⟩ | ⟨_, table, named, rfl⟩
    · exact absurd (alone.symm.trans complex) Bool.false_ne_true
    refine ⟨metadata, filter, groups, table, ?_⟩
    cases groups with
    | nil =>
      obtain ⟨rows, known, size⟩ := tallied _ rfl rfl
      exact ⟨rows, rfl, tested, grouped, named, known, ⟨_, _, rows, whole, rfl, known, rfl⟩, size⟩
    | cons group rest =>
      obtain ⟨rows, known, size⟩ := tallied _ rfl rfl
      exact ⟨rows, rfl, tested, grouped, named, known, ⟨_, _, rows, whole, rfl, known, rfl⟩, size⟩

end

/-- Whether a condition has rows agrees with how many it has, if it has no source of its own. Both read the model's table, and
groups are there exactly if rows are. -/
theorem exists_iff_counted {s : Surroundings σ} {state : σ → Prop} {bound : Nat} {result : Query → Option (List Row)}
    (gathers : s.Gathers state bound result) {condition : Condition} (simple : condition.source = none)
    (unnamed : ∀ filter, condition.formulas = .ok filter → condition.groups ≠ [] → ¬ Formula.names filter "_one")
    {looking counting : Scene σ} (first : looking.work.isClosed = false) (second : counting.work.isClosed = false)
    (kept : state looking.world) (still : state counting.world)
    (same : counting.work.options.database = looking.work.options.database)
    (few : ∀ number, Matches s result looking.work.options.database condition number → number < Word.signedBound)
    {found : Bool} {total : UInt64} (looked : (exists? s condition looking).1 = .ok found)
    (counted : (count s condition counting).1.1 = .ok total) :
    found = true ↔ 0 < total := by
  obtain ⟨metadata, filter, table, rows, bound_, tested, named, ones, there⟩ := exists_ok gathers first kept looked
  obtain ⟨_, _, groups, _, others, counted_, tested_, grouped, named_, known, matches_, size⟩ :=
    count_ok gathers second still simple counted
  rw [same] at named_ matches_
  cases tested.symm.trans tested_
  cases (boundModel_ok bound_).symm.trans counted_
  cases named.symm.trans named_
  have fits := few _ matches_
  have total_ : total.toNat = others.length := by
    rw [size fits]
    exact UInt64.toNat_ofNat_of_lt' (Nat.lt_trans fits (by decide))
  have filled : 0 < rows.length ↔ 0 < others.length := by
    cases groups with
    | nil =>
      cases ones.symm.trans known
      exact Iff.rfl
    | cons group rest =>
      have some_ : condition.groups ≠ [] := by
        intro nothing
        rw [Condition.groupRefs, nothing] at grouped
        cases grouped
      exact (gathers.groups (List.cons_ne_nil group rest) (unnamed filter tested some_) ones known).pos_iff
  rw [there, filled, ← total_, UInt64.lt_iff_toNat_lt]
  rfl

/-- One token is there, and it is the only one of its group. -/
theorem grouped_token_exists :
    let condition : Condition := { model := some "Token", groups := ["active"] }
    let tokens := readingStored ["a"]
    (exists? storedTokens condition tokens).1 = .ok true ∧ (count storedTokens condition tokens).1.1 = .ok 1 ∧
      (0 : UInt64) < 1 := by
  intro condition tokens
  have looked : (exists? storedTokens condition tokens).1 = .ok true := by with_unfolding_all rfl
  have counted : (count storedTokens condition tokens).1.1 = .ok 1 := by with_unfolding_all rfl
  have unnamed (filter : List Formula) (tested : condition.formulas = .ok filter) (_ : condition.groups ≠ []) :
      ¬ Formula.names filter "_one" := by
    have nothing : condition.formulas = .ok [] := rfl
    cases nothing.symm.trans tested
    rintro ⟨column, member, _⟩
    cases member
  have few (number : Nat) (matches_ : Matches storedTokens (tokenDatabase ["a"]).result none condition number) :
      number < Word.signedBound := by
    obtain ⟨statement, query, rows, made, counts, known, rfl⟩ := matches_
    have made_ : countStatement storedTokens none condition = .ok ⟨.countResult
        { items := [.oneAs "_one"], source := { table := ⟨none, "token"⟩ }, groups := [.ofKey "active"] }, []⟩ := rfl
    cases made_.symm.trans made
    cases counts
    have one : (tokenDatabase ["a"]).result
        { items := [.oneAs "_one"], source := { table := ⟨none, "token"⟩ }, groups := [.ofKey "active"] } =
          some [[("_one", .int 1)]] := by with_unfolding_all rfl
    cases one.symm.trans known
    decide
  have reads := reads_readingStored ["a"]
  have gathers := World.gathers ⟨[tokenMetadata]⟩ false "main" (tokenDatabase ["a"])
  have agree := exists_iff_counted gathers rfl unnamed reads.unclosed reads.unclosed reads.kept reads.kept rfl few looked
    counted
  exact ⟨looked, counted, agree.mp rfl⟩

/-- A condition with a source of its own is counted there, but whether it has rows is asked of its model's table: there are
tokens, and no wallets. -/
theorem foreign_rows_not_counted :
    let condition : Condition := { model := some "Token", source := some ⟨"wallet", "w"⟩, fields := ["w.id"] }
    let s : Surroundings Unit := .ofResult ⟨[tokenMetadata]⟩ fun query => some ((tokensRead query).getD [])
    (exists? s condition (readingTokens .sqlite)).1 = .ok true ∧ (count s condition (readingTokens .sqlite)).1.1 = .ok 0 :=
  ⟨rfl, rfl⟩

end Work

end RecordMapper
