import RecordMapper.Proofs.BoundValues
import RecordMapper.Proofs.ServedReads
import RecordMapper.Proofs.UpdateTexts
import RecordMapper.Proofs.WhereGuard

/-! Paged lists over several tables, read with and without a count before. What is counted is the list's own query without its
order, in text as well as in parameters, so that both lists are the same page. -/

namespace RecordMapper

/-- A query as it is counted. -/
def Query.unsorted (query : Query) : Query := { query with sorts := [] }

theorem join_append_unbound (dialect : Dialect) (first : List Piece) {second : List Piece}
    (unbound : Piece.params second = []) :
    Piece.join dialect (first ++ second) = Piece.join dialect first ++ Piece.join dialect second := by
  have steady (index : Nat) : Piece.texts dialect index second = second.map (Piece.printedOne dialect fun _ => "") :=
    Piece.texts_eq_map unbound index
  rw [Piece.join, Clause.texts_append, String.join_append, Piece.join, Piece.join, steady, steady]

namespace Statement

theorem text_countResult (dialect : Dialect) (query : Query) :
    text dialect ⟨.countResult query, []⟩ = "SELECT COUNT(1) FROM (" ++ text dialect ⟨.select query, []⟩ ++ ") _cnt" := by
  have last : Piece.join dialect [.fixed ") _cnt"] = ") _cnt" := Clause.join_fixed dialect _ []
  have whole : text dialect ⟨.countResult query, []⟩ =
      Piece.join dialect (.fixed "SELECT COUNT(1) FROM (" :: (query.pieces ++ [.fixed ") _cnt"])) :=
    Clause.text_of_section dialect rfl
  have inner : text dialect ⟨.select query, []⟩ = Piece.join dialect query.pieces := Clause.text_of_section dialect rfl
  rw [whole, Clause.join_fixed, join_append_unbound dialect query.pieces rfl, last, inner, String.append_assoc]

/-- A query is sorted by a clause at its end, which binds nothing. -/
theorem text_unsorted (dialect : Dialect) (query : Query) :
    text dialect ⟨.select query, []⟩ =
      text dialect ⟨.select query.unsorted, []⟩ ++ Piece.join dialect (sortPieces query.sorts) := by
  have split : query.pieces = query.unsorted.pieces ++ sortPieces query.sorts := by
    simp [Query.pieces, Query.unsorted, sortPieces]
  have unbound : Piece.params (sortPieces query.sorts) = [] := Piece.silent_value.sorts query.sorts
  have whole : text dialect ⟨.select query, []⟩ = Piece.join dialect query.pieces := Clause.text_of_section dialect rfl
  have plain : text dialect ⟨.select query.unsorted, []⟩ = Piece.join dialect query.unsorted.pieces :=
    Clause.text_of_section dialect rfl
  rw [whole, plain, split, join_append_unbound dialect query.unsorted.pieces unbound]

theorem count_of_selectComplex {database : Option String} {condition : Condition} {statement : Statement}
    (made : selectComplex database condition = .ok statement) :
    ∃ query, statement = ⟨.select query, []⟩ ∧ count database none condition = .ok ⟨.countResult query.unsorted, []⟩ := by
  obtain ⟨source, filter, groups, sorts, fields, from_, tested, grouped, _, rfl⟩ := selectComplex_eq_ok.mp made
  exact ⟨_, rfl, count_eq_ok.mpr ⟨filter, groups, tested, grouped, .inl ⟨isComplex_of_source from_, fields, source, from_, rfl⟩⟩⟩

end Statement

/-- A query that a database reads by pages and counts without its order, which does not change the number of its rows.
That number fits a signed integer of 64 bits. -/
structure Surroundings.Measures (s : Surroundings σ) (state : σ → Prop) (bound : Nat) (query : Query)
    (result unsorted : Option (List Row)) : Prop where
  pages : s.Pages state bound query result
  tallies : s.Tallies state query.unsorted unsorted
  size {rows : List Row} (known : result = some rows) : ∃ others, unsorted = some others ∧ others.length = rows.length
  bounded {rows : List Row} (known : result = some rows) : rows.length < Word.signedBound

namespace Work

theorem slicedPage_eq_pageOf {bound : Nat} {rows page : List Row} {plan : Option PagePlan}
    (sliced : slicedPage bound (some rows) plan = some page) : page = pageOf plan rows := by
  cases plan with
  | none => exact (Option.some.inj sliced).symm
  | some plan =>
    rw [slicedPage] at sliced
    split at sliced
    · exact (Option.some.inj sliced).symm
    · cases sliced

section

variable {s : Surroundings σ} {state : σ → Prop} {bound : Nat} {query : Query} {result unsorted : Option (List Row)}
  (measures : s.Measures state bound query result unsorted) (model : Model α) (metadata : Metadata) {condition : Condition}
include measures

theorem fetchList_complex_direct {direct : Scene σ} (reads : Reads state false direct)
    (made : Statement.selectComplex direct.work.options.database condition = .ok ⟨.select query, []⟩) {page : List Row}
    (sliced : slicedPage bound result condition.paging.plan? = some page) :
    (fetchList s model true metadata condition direct).1.1 = objectsOf model metadata page := by
  have serves := measures.pages.page condition.paging.plan?
  rw [sliced] at serves
  have listed : reading direct.work.options.database true metadata condition = .ok ⟨.select query, []⟩ := made
  rw [fetchList_uncounted reads.dialect listed]
  exact fetchObjects_served reads.unclosed (measures.pages.note reads.kept) model metadata serves

theorem fetchList_complex_counted {counting : Scene σ} (reads : Reads state true counting)
    (fresh : condition.paging.total = none)
    (made : Statement.selectComplex counting.work.options.database condition = .ok ⟨.select query, []⟩) {rows page : List Row}
    (known : result = some rows) (sliced : slicedPage bound result condition.paging.plan? = some page) :
    (fetchList s model true metadata condition counting).1 =
      (objectsOf model metadata page,
        if condition.paging.plan?.isSome then condition.setTotal (UInt64.ofNat rows.length) else condition) := by
  have serves := measures.pages.page condition.paging.plan?
  rw [sliced] at serves
  obtain ⟨others, counted, size⟩ := measures.size known
  obtain ⟨query_, same, whole⟩ := Statement.count_of_selectComplex made
  cases same
  have counts : Counts s state ⟨.countResult query.unsorted, []⟩ rows.length := by
    have counting_ : Statement.counted? ⟨.countResult query.unsorted, []⟩ = some query.unsorted := rfl
    have tallied := measures.tallies.count counting_
    rw [counted] at tallied
    exact size ▸ tallied
  have listed : reading counting.work.options.database true metadata condition = .ok ⟨.select query, []⟩ := made
  rw [known] at sliced
  rw [slicedPage_eq_pageOf sliced] at serves ⊢
  exact fetchList_after_count (fun _ _ kept => measures.pages.note kept) model metadata reads.unclosed reads.kept reads.dialect
    fresh listed whole counts (measures.bounded known) fun later open_ still =>
      fetchObjects_served open_ (measures.pages.note still) model metadata serves

theorem fetchList_complex_ok {metadata : Metadata} {direct : Scene σ} (reads : Reads state false direct)
    (made : Statement.selectComplex direct.work.options.database condition = .ok ⟨.select query, []⟩) {objects : List α}
    (listed : (fetchList s model true metadata condition direct).1.1 = .ok objects) :
    (slicedPage bound result condition.paging.plan?).isSome := by
  have read : reading direct.work.options.database true metadata condition = .ok ⟨.select query, []⟩ := made
  rw [fetchList_uncounted reads.dialect read] at listed
  obtain ⟨page, sliced, _⟩ := fetchObjects_ok reads.unclosed (measures.pages.note reads.kept) (measures.pages.page _) listed
  exact Option.isSome_of_eq_some sliced

end

/-- A read over a condition's own source is counted by its own statement without the order, with the same parameters. So the
list is the same with a count before it, which the condition keeps if it asks for a page. -/
theorem complex_list_counted {s : Surroundings σ} {state : σ → Prop} {bound : Nat} (model : Model α) {condition : Condition}
    (fresh : condition.paging.total = none) {counting direct : Scene σ} (first : Reads state true counting)
    (other : Reads state false direct) (same : direct.work.options.database = counting.work.options.database)
    {statement : Statement} (made : Statement.selectComplex counting.work.options.database condition = .ok statement) :
    ∃ query, statement = ⟨.select query, []⟩ ∧
      Statement.count counting.work.options.database none condition = .ok ⟨.countResult query.unsorted, []⟩ ∧
      Statement.params ⟨.countResult query.unsorted, []⟩ = statement.params ∧
      (∀ dialect, ∃ derived,
        Statement.text dialect ⟨.countResult query.unsorted, []⟩ = "SELECT COUNT(1) FROM (" ++ derived ++ ") _cnt" ∧
          statement.text dialect = derived ++ Piece.join dialect (sortPieces query.sorts)) ∧
      ∀ result unsorted, s.Measures state bound query result unsorted →
        (∀ objects, (findList s model true condition direct).1.1 = .ok objects →
          (slicedPage bound result condition.paging.plan?).isSome) ∧
        ∀ rows, result = some rows → (slicedPage bound result condition.paging.plan?).isSome →
          (findList s model true condition counting).1.1 = (findList s model true condition direct).1.1 ∧
            ((modelFor s model condition).isOk →
              (findList s model true condition counting).1.2 =
                if condition.paging.plan?.isSome then condition.setTotal (UInt64.ofNat rows.length) else condition) := by
  obtain ⟨query, rfl, counted⟩ := Statement.count_of_selectComplex made
  have params : Statement.params ⟨.countResult query.unsorted, []⟩ = Statement.params ⟨.select query, []⟩ :=
    (Building.params_countResult query.unsorted).trans (Building.params_select query []).symm
  refine ⟨query, rfl, counted, params, fun dialect => ⟨_, Statement.text_countResult dialect query.unsorted,
    Statement.text_unsorted dialect query⟩, fun result unsorted measures => ?_⟩
  have made_ := same ▸ made
  cases looked : modelFor s model condition with
  | error failure =>
    rw [findList_error looked]
    refine ⟨fun objects listed => (nomatch listed), fun rows _ _ => ⟨findList_error looked counting, nofun⟩⟩
  | ok metadata =>
    rw [findList_ok looked, findList_ok looked]
    refine ⟨fun objects listed => fetchList_complex_ok measures model other made_ listed, fun rows known paged => ?_⟩
    obtain ⟨page, sliced⟩ := Option.isSome_iff_exists.mp paged
    rw [fetchList_complex_counted measures model metadata first fresh made known sliced,
      fetchList_complex_direct measures model metadata other made_ sliced]
    exact ⟨rfl, fun _ => rfl⟩

end Work

/-- What a query over all tokens reads, in their order or from the last to the first. Expressions are names of columns. -/
def tokensSorted (query : Query) : Option (List Row) :=
  let named : List Item := query.items.map fun item => match item with
    | .expression text => .column text
    | item => item
  (tokensRead { query with items := named }).map fun rows =>
    if query.sorts.any fun sort => sort.2 = .desc then rows.reverse else rows

theorem length_tokensSorted {query : Query} {rows : List Row} (known : tokensSorted query = some rows) : rows.length = 3 := by
  obtain ⟨read, found, rfl⟩ := Option.map_eq_some_iff.mp known
  have size : read.length = 3 := by
    unfold tokensRead at found
    split at found
    · cases found
      rfl
    · cases found
  split
  · rw [List.length_reverse, size]
  · exact size

theorem measures_tokensSorted (registry : Registry) (query : Query) :
    (Surroundings.ofResult registry tokensSorted).Measures (fun _ => True) UInt64.size query (tokensSorted query)
      (tokensSorted query.unsorted) where
  pages := Surroundings.pages_ofResult registry tokensSorted query
  tallies := Surroundings.tallies_ofResult registry tokensSorted query.unsorted
  size known := by
    obtain ⟨read, found, _⟩ := Option.map_eq_some_iff.mp known
    have others : tokensSorted query.unsorted = some read := by
      let ordered (rows : List Row) : List Row :=
        if ([] : List (ColumnRef × Order)).any fun sort => sort.2 = .desc then rows.reverse else rows
      exact congrArg (Option.map ordered) found
    exact ⟨read, others, (length_tokensSorted others).trans (length_tokensSorted known).symm⟩
  bounded known := by
    rw [length_tokensSorted known]
    decide

namespace Work

/-- Tokens are read from the last to the first through an alias. The second page of two holds the first token, and three tokens
are counted without their order. -/
theorem last_page_of_aliased_tokens :
    let condition : Condition :=
      { paging := { number := 2, size := 2 }, source := some ⟨"token", "t"⟩, fields := ["token", "owner", "active", "blob"],
        sorts := [⟨"token", .desc⟩] }
    let s : Surroundings Unit := .ofResult ⟨[tokenMetadata]⟩ tokensSorted
    (findList s token true condition (readingTokens .mysql)).1.1 =
        (findList s token true condition (readingTokens .sqlite)).1.1 ∧
      (findList s token true condition (readingTokens .mysql)).1.2 = condition.setTotal 3 := by
  intro condition s
  have first : Reads (fun _ => True) true (readingTokens .mysql) := ⟨rfl, rfl, trivial⟩
  have other : Reads (fun _ => True) false (readingTokens .sqlite) := ⟨rfl, rfl, trivial⟩
  have made : Statement.selectComplex none condition = .ok ⟨.select
      { items := condition.fields.map .expression, source := { table := ⟨none, "token"⟩, aliasName := some "t" },
        sorts := [(.ofName "token", .desc)] }, []⟩ := rfl
  obtain ⟨query, same, _, _, _, lists⟩ := @complex_list_counted _ _ s _ UInt64.size token _ rfl _ _ first other rfl _ made
  cases same
  obtain ⟨_, counted⟩ := lists _ _ (measures_tokensSorted ⟨[tokenMetadata]⟩ _)
  obtain ⟨list, total⟩ := counted _ rfl (by decide)
  exact ⟨list, total rfl⟩

end Work

end RecordMapper
