import Mathlib.Algebra.GroupWithZero.Nat
import Mathlib.Data.List.SplitBy
import RecordMapper.Proofs.Outcomes
import RecordMapper.Relational.Query

/-! Groups of rows in memory. They are parts of the rows that pass the filter, none of them empty, so that there are groups
exactly if there are rows. -/

namespace RecordMapper

/-- Whether an item passes a test that may fail. -/
def admits (passes : α → Except ε Bool) (item : α) : Bool := (passes item).toOption.getD false

theorem filterAuxM_eq_ok {passes : α → Except ε Bool} {items done kept : List α}
    (made : items.filterAuxM passes done = .ok kept) : kept = (items.filter (admits passes)).reverse ++ done := by
  induction items generalizing done with
  | nil => exact (Outcome.pure_eq_ok.mp made).symm
  | cons item rest ih =>
    rw [List.filterAuxM, Outcome.bind_eq_ok] at made
    obtain ⟨passed, tested, others⟩ := made
    rw [ih others]
    cases passed <;> simp [admits, tested, Except.toOption]

theorem filterM_eq_ok {passes : α → Except ε Bool} {items kept : List α} (made : items.filterM passes = .ok kept) :
    kept = items.filter (admits passes) := by
  obtain ⟨found, gathered, same⟩ := Outcome.bind_eq_ok.mp made
  rw [← Outcome.pure_eq_ok.mp same, filterAuxM_eq_ok gathered, List.append_nil, List.reverse_reverse]

theorem map_snd_keyed {key : α → Except ε β} {items : List α} {keyed : List (β × α)}
    (made : (items.mapM fun item => do return (← key item, item)) = .ok keyed) : keyed.map Prod.snd = items := by
  rw [Outcome.mapM_eq_ok] at made
  induction made with
  | nil => rfl
  | cons entry _ ih =>
    obtain ⟨_, _, same⟩ := Outcome.bind_eq_ok.mp entry
    cases same
    rw [List.map_cons, ih]

theorem length_gather {passes : Frame → Except Fault Bool} {make : Frame → Except Fault Frame} {frames rows : List Frame}
    (made : gather (fun frame => do if ← passes frame then return some (← make frame) else return none) none frames = .ok rows) :
    rows.length = (frames.filter (admits passes)).length := by
  induction frames generalizing rows with
  | nil =>
    cases made
    rfl
  | cons frame rest ih =>
    rw [gather] at made
    case x_2 => nofun
    rw [Outcome.bind_eq_ok] at made
    obtain ⟨found, tested, others⟩ := made
    obtain ⟨passed, holds, given⟩ := Outcome.bind_eq_ok.mp tested
    cases passed with
    | false =>
      cases given
      rw [ih others]
      simp [admits, holds, Except.toOption]
    | true =>
      obtain ⟨row, _, same⟩ := Outcome.bind_eq_ok.mp given
      cases same
      obtain ⟨more, gathered, same⟩ := Outcome.bind_eq_ok.mp others
      cases same
      simp [admits, holds, Except.toOption, ih gathered]

namespace Frame

theorem flatten_grouped (directions : List Direction) (keyed : List (Frame × α)) :
    (grouped directions keyed).flatten.Perm (keyed.map Prod.snd) := by
  rw [grouped, ← List.map_flatten, List.flatten_splitBy]
  exact (List.mergeSort_perm keyed _).map Prod.snd

theorem ne_nil_of_mem_grouped {directions : List Direction} {keyed : List (Frame × α)} {part : List α}
    (member : part ∈ grouped directions keyed) : part ≠ [] := by
  obtain ⟨run, among, rfl⟩ := List.mem_map.mp member
  intro nothing
  rw [List.map_eq_nil_iff.mp nothing] at among
  exact List.nil_notMem_splitBy _ _ among

end Frame

namespace Projection

variable {outer : List Seat} {width : Nat} {passes : Frame → Except Fault Bool} {frames results : List Frame}
  {columns picked : List Term} {collations : List Collation} {groupDirections directions : List Direction}
  {pick : Option (Ordering × Collation)}

/-- Without groups and order, a row is made of each that passes. -/
theorem length_rows {having : Option Term}
    (made : rows outer width passes {} none frames
      ⟨columns, collations, false, none, groupDirections, pick, picked, having, [], [], directions⟩ = .ok results) :
    results.length = (frames.filter (admits passes)).length := by
  rw [rows] at made
  simp only [Option.isNone_none, Bool.not_false, List.isEmpty_nil, Bool.and_self, ↓reduceIte, Outcome.bind_eq_ok] at made
  obtain ⟨gathered, found, same⟩ := made
  cases same
  exact length_gather found

/-- With groups, a row is made of each part that has the same keys. -/
theorem length_rows_grouped {key : Term} {keys : List Term}
    (made : rows outer width passes {} none frames
      ⟨columns, collations, false, some (key :: keys), groupDirections, pick, picked, none, [], [], directions⟩ = .ok results) :
    ∃ parts : List (List Frame), parts.flatten.Perm (frames.filter (admits passes)) ∧ (∀ part ∈ parts, part ≠ []) ∧
      results.length = parts.length := by
  rw [rows, if_neg (by simp)] at made
  simp only [Outcome.bind_eq_ok] at made
  obtain ⟨kept, passed, keyed, keyed_, represented, represents, seats, all, extended, same, found, read, given⟩ := made
  have whole : kept = frames.filter (admits passes) := filterM_eq_ok passed
  have members : keyed.map Prod.snd = kept := map_snd_keyed keyed_
  have seated : seats = represented := by
    rw [filterM_eq_ok all, List.filter_eq_self]
    intro seat _
    rw [admits, Term.holds]
    rfl
  have unextended : extended = seats.map fun seat => (seat, []) := by
    rw [Windowed.extendAll] at same
    exact (Except.ok.inj same).symm
  have results_ : results = found.map Prod.snd := (Except.ok.inj given).symm
  refine ⟨Frame.grouped groupDirections keyed, ?_, fun part => Frame.ne_nil_of_mem_grouped, ?_⟩
  · rw [← whole, ← members]
    exact Frame.flatten_grouped groupDirections keyed
  · calc results.length = extended.length := by rw [results_, List.length_map, (Outcome.mapM_eq_ok.mp read).length_eq]
      _ = represented.length := by rw [unextended, List.length_map, seated]
      _ = (Frame.grouped groupDirections keyed).length := (Outcome.mapM_eq_ok.mp represents).length_eq.symm

end Projection

/-! Queries that read ones. -/

def ResultMeaning.one (label : Option String) (source : String) : ResultMeaning :=
  ⟨label, { term := .literal (.int 1), sense := .ofDatum (.int 1) }, source⟩

namespace Sketch

/-- What a query of ones over a table means, by the columns of the table and by what it is grouped by. -/
def ones (result : ResultMeaning) (header : List Heading) (rowset : Rowset) (groups : List Meaning) (origin : Origin) :
    Sketch where
  level := { header, labels := ResultMeaning.labels [result] }
  results := [result]
  rowset
  filter := none
  groups
  having := none
  windows := []
  sorts := []
  origin := some origin
  distinct := false
  depth := 0

end Sketch

theorem length_groupMeanings {around : Around} {results : List ResultMeaning} {keys : List Expression} {index : Nat}
    {meanings : List Meaning} {before after : List Windowed}
    (made : (Expression.groupMeanings around results index keys).run before = .ok (meanings, after)) :
    meanings.length = keys.length := by
  induction keys generalizing index meanings before after with
  | nil =>
    rw [Expression.groupMeanings] at made
    cases made
    rfl
  | cons key rest ih =>
    rw [Expression.groupMeanings] at made
    -- Whichever meaning the key has, it is one, and the others follow.
    have tail {meaning : Meaning} {refused : Prop} [Decidable refused] {cause : Fault} {middle : List Windowed}
        (ran : (if refused then do
            (throw cause : Except Fault PUnit)
            return meaning :: (← Expression.groupMeanings around results (index + 1) rest)
          else return meaning :: (← Expression.groupMeanings around results (index + 1) rest) :
            Naming (List Meaning)).run middle = .ok (meanings, after)) : meanings.length = (key :: rest).length := by
      split at ran
      · simp only [StateT.run_bind, Outcome.bind_eq_ok] at ran
        obtain ⟨_, thrown, _⟩ := ran
        cases thrown
      · simp only [StateT.run_bind, Outcome.bind_eq_ok] at ran
        obtain ⟨more, found, same⟩ := ran
        cases same
        rw [List.length_cons, List.length_cons, ih found]
    simp only [StateT.run_bind, Outcome.bind_eq_ok] at made
    obtain ⟨placed, _, made⟩ := made
    split at made
    · simp only [StateT.run_bind, Outcome.bind_eq_ok] at made
      obtain ⟨_, _, made⟩ := made
      exact tail made
    · simp only [StateT.run_bind, Outcome.bind_eq_ok] at made
      obtain ⟨_, _, _, _, made⟩ := made
      exact tail made

section

variable {label : Option String} {text : String}

theorem allMeanings_one (around : Around) :
    (ResultColumn.allMeanings around [.one (.literal (.int 1)) label text]).run [] = .ok ([ResultMeaning.one label text], []) := by
  rw [ResultColumn.allMeanings, ResultColumn.allMeanings, ResultColumn.meanings, Expression.meaning]
  rfl

theorem meaning?_none (around : Around) : (Expression.meaning? around none).run [] = .ok (none, []) := by
  rw [Expression.meaning?]
  rfl

theorem meanings_nil (around : Around) : NamedWindow.meanings around [] [] = [] := by
  rw [NamedWindow.meanings]

/-- The names of a query of ones are those of its table and of its own label. -/
theorem Query.sketch_ones {tables : Tables} {item : Item} (one : item.resultColumn = .one (.literal (.int 1)) label text)
    {source : RowSource} {filter : List Formula} {groups : List ColumnRef} {sketch : Sketch}
    (made : Query.sketch tables ⟨[item], source, filter, groups, []⟩ = .ok sketch) :
    ∃ header rowset meanings, Around.headings { tables } source.table source.aliasName = .ok header ∧
      Around.rowset { tables } source.table = .ok rowset ∧ meanings.length = groups.length ∧
      sketch = .ones (.one label text) header rowset meanings (.table source.table source.aliasName) := by
  rw [Query.sketch, Query.select, List.map_singleton, one, Select.sketch] at made
  simp only [allMeanings_one, meaning?_none, meanings_nil, List.map_nil, Sorting.resultMeanings, Outcome.bind_eq_ok,
    Origin.header?, Origin.header, Origin.rowset?, Origin.rowset] at made
  obtain ⟨header, headed, _, named, made⟩ := made
  cases named
  rw [if_neg (by simp)] at made
  simp only [Outcome.bind_eq_ok] at made
  obtain ⟨_, first, having, unfiltered, _, second, test, untested, rowset, rows, sorts, unsorted, ⟨meanings, left⟩, grouped, _, _,
    _, _, made⟩ := made
  cases first
  cases second
  cases unfiltered
  cases untested
  cases unsorted
  have count : meanings.length = groups.length := by
    rw [length_groupMeanings grouped, List.length_map]
  refine ⟨header, rowset, meanings, headed, rows, count, ?_⟩
  split at made
  · simp only [Outcome.bind_eq_ok] at made
    obtain ⟨_, _, made⟩ := made
    cases made
    rfl
  · cases made
    rfl

end

theorem groupKeys_ne_nil {is : (Heading → Bool) → Meaning → Bool} {groups : List Meaning} (filled : groups ≠ [])
    (orders : List Order) : groupKeys is groups orders ≠ [] := by
  have zipped {others : List Order} (same : others.length = groups.length) : groups.zip others ≠ [] := by
    refine List.ne_nil_of_length_pos ?_
    rw [List.length_zip, same, Nat.min_self]
    exact List.length_pos_iff.mpr filled
  unfold groupKeys
  split
  case h_1 => exact List.cons_ne_nil _ _
  case h_2 =>
    apply zipped
    split
    next same => exact same.symm
    · exact List.length_map _
  case h_3 filled_ _ => exact fun nothing => filled_ (List.map_eq_nil_iff.mp nothing)

theorem Sketch.projection_ones (result : ResultMeaning) (header : List Heading) (rowset : Rowset) {groups : List Meaning}
    (filled : groups ≠ []) (origin : Origin) :
    ∃ key keys terms collations directions pick picked, (ones result header rowset groups origin).projection =
      ⟨terms, collations, false, some (key :: keys), directions, pick, picked, none, [], [], []⟩ := by
  have summing : (ones result header rowset groups origin).summing = true := by
    simp [Sketch.summing, ones, filled]
  have present : groupKeys (Meaning.isColumn (some origin) header 0) groups [] ≠ [] := groupKeys_ne_nil filled []
  obtain ⟨key, keys, same⟩ := List.exists_cons_of_ne_nil present
  let made := (ones result header rowset groups origin).projection
  have grouped : made.groups = some (key.1.term :: keys.map fun key => key.1.term) := by
    have given : made.groups = if (ones result header rowset groups origin).summing then
      some ((groupKeys (Meaning.isColumn (some origin) header 0) groups []).map fun key => key.1.term) else none := rfl
    rw [given, if_pos summing, same]
    rfl
  refine ⟨key.1.term, keys.map fun key => key.1.term, made.columns, made.collations, made.groupDirections, made.pick,
    made.picked, ?_⟩
  rw [← grouped]
  rfl

/-- Rows are read in an order that their columns decide, but always the same rows. -/
theorem Query.scanned_perm {sketch : Sketch} {columns : FilterColumns} {filter : List Formula} {frames : List Frame}
    (read : Query.scanned sketch columns filter = .ok frames) :
    ∃ base, sketch.rowset.frames [] none = .ok base ∧ frames.Perm base := by
  obtain ⟨base, found, ordered⟩ := Outcome.bind_eq_ok.mp read
  refine ⟨base, found, ?_⟩
  split at ordered
  · cases ordered
    exact .refl _
  · rw [← Outcome.pure_eq_ok.mp ordered]
    dsimp only
    split
    · exact List.mergeSort_perm base _
    · exact .refl _

/-- Whether a filter names a label of the result by its own. -/
def Formula.names (filter : List Formula) (label : String) : Prop :=
  ∃ column ∈ allColumns filter, column.parts.dropLast = [] ∧ Name.alike label (column.parts.getLastD "") = true

theorem Scope.find_unlabelled (header : List Heading) {label : String} {parts : List String}
    (other : parts.dropLast = [] → Name.alike label (parts.getLastD "") = false) (meaning : Meaning) (windowing quoted : Bool) :
    Scope.find [{ header, labels := [(label, meaning)] }] windowing parts quoted =
      Scope.find [{ header }] windowing parts quoted := by
  have same : search windowing parts [({ header, labels := [(label, meaning)] }, 0)] = search windowing parts [({ header }, 0)] := by
    simp only [search, Level.candidates]
    split
    · rfl
    · rfl
    · cases alone : parts.dropLast with
      | nil => simp only [List.isEmpty_nil, ↓reduceIte, List.find?_cons, other alone, List.find?_nil]
      | cons => rfl
  simp only [Scope.find, List.zipIdx_cons, List.zipIdx_nil, List.reverse_singleton, same]

theorem mapM_congr {first second : α → Except ε β} {items : List α} (same : ∀ item ∈ items, first item = second item) :
    items.mapM first = items.mapM second := by
  induction items with
  | nil => rfl
  | cons item rest ih =>
    rw [List.forall_mem_cons] at same
    rw [List.mapM_cons, List.mapM_cons, same.1, ih same.2]

/-- A filter that does not name the label of a result means the same as without it. -/
theorem FilterColumns.ofFilter_unlabelled (header : List Heading) {filter : List Formula} {label : String}
    (unnamed : ¬ Formula.names filter label) (meaning : Meaning) :
    ofFilter { header, labels := [(label, meaning)] } filter = ofFilter { header } filter := by
  refine mapM_congr fun ref member => ?_
  have among : ref ∈ Formula.allColumns filter := List.mem_eraseDups.mp member
  have other (alone : ref.parts.dropLast = []) : Name.alike label (ref.parts.getLastD "") = false := by
    by_contra named
    exact unnamed ⟨ref, among, alone, by simpa using named⟩
  rw [Scope.find_unlabelled header other]

/-- Groups of rows are parts of them, and none is empty. -/
def Gathered (rows groups : List α) : Prop :=
  ∃ sizes : List Nat, sizes.length = groups.length ∧ sizes.sum = rows.length ∧ ∀ size ∈ sizes, 0 < size

theorem Gathered.pos_iff {rows groups : List α} (gathered : Gathered rows groups) : 0 < rows.length ↔ 0 < groups.length := by
  obtain ⟨sizes, count, total, filled⟩ := gathered
  rw [← count, ← total]
  cases sizes with
  | nil => simp
  | cons size rest =>
    have first := filled size List.mem_cons_self
    simp only [List.sum_cons, List.length_cons]
    omega

namespace Query

variable {tables : Tables} {source : RowSource} {filter : List Formula}

theorem run_ones {label : Option String} {text : String} {item : Item}
    (one : item.resultColumn = .one (.literal (.int 1)) label text) {groups : List ColumnRef} {rows : List Row}
    (ran : Query.run tables ⟨[item], source, filter, groups, []⟩ = .ok rows) :
    ∃ header rowset meanings columns base frames results,
      Around.headings { tables } source.table source.aliasName = .ok header ∧
        Around.rowset { tables } source.table = .ok rowset ∧ rowset.frames [] none = .ok base ∧ meanings.length = groups.length ∧
        FilterColumns.ofFilter { header, labels := ResultMeaning.labels [.one label text] } filter = .ok columns ∧
        frames.Perm base ∧ results.length = rows.length ∧
        (Sketch.ones (.one label text) header rowset meanings (.table source.table source.aliasName)).projection.rows [] rowset.width
          (columns.lets filter) {} none frames = .ok results := by
  simp only [Query.run, Outcome.bind_eq_ok, Outcome.pure_eq_ok] at ran
  obtain ⟨sketch, sketched, columns, found, frames, scanned, _, _, results, read, rfl⟩ := ran
  obtain ⟨header, rowset, meanings, headed, rowed, count, rfl⟩ := sketch_ones one sketched
  obtain ⟨base, framed, order⟩ := scanned_perm scanned
  exact ⟨header, rowset, meanings, columns, base, frames, results, headed, rowed, framed, count, found, order,
    (List.length_map _).symm, read⟩

/-- Ones of groups are of parts of the rows that ones are read of, unless the filter names their label. -/
theorem gathered_ones {groups : List ColumnRef} (filled : groups ≠ []) {label : String} (unnamed : ¬ Formula.names filter label)
    {rows gathered : List Row} (ran : Query.run tables { items := [.one], source, filter } = .ok rows)
    (grouped : Query.run tables { items := [.oneAs label], source, filter, groups } = .ok gathered) :
    Gathered rows gathered := by
  obtain ⟨header, rowset, meanings, columns, base, frames, results, headed, rowed, framed, none_, found, order, size, read⟩ :=
    run_ones rfl ran
  obtain ⟨_, _, meanings_, columns_, _, frames_, results_, headed_, rowed_, framed_, count, found_, order_, size_, read_⟩ :=
    run_ones rfl grouped
  cases headed.symm.trans headed_
  cases rowed.symm.trans rowed_
  cases framed.symm.trans framed_
  have labelled : ResultMeaning.labels [.one (some label) label] = [(label, (ResultMeaning.one (some label) label).meaning)] := rfl
  rw [labelled, FilterColumns.ofFilter_unlabelled header unnamed] at found_
  cases found.symm.trans found_
  have admitted : results.length = (frames.filter (admits (columns.lets filter))).length := by
    cases List.eq_nil_of_length_eq_zero none_
    exact Projection.length_rows read
  have some_ : meanings_ ≠ [] := List.ne_nil_of_length_pos (count ▸ List.length_pos_iff.mpr filled)
  obtain ⟨key, keys, terms, collations, directions, pick, picked, shape⟩ :=
    Sketch.projection_ones (ResultMeaning.one (some label) label) header rowset some_ (.table source.table source.aliasName)
  rw [shape] at read_
  obtain ⟨parts, whole, each, count_⟩ := Projection.length_rows_grouped read_
  refine ⟨parts.map List.length, ?_, ?_, ?_⟩
  · rw [List.length_map, ← count_, size_]
  · have same := whole.trans ((order_.trans order.symm).filter (admits (columns.lets filter)))
    rw [← List.length_flatten, same.length_eq, ← admitted, size]
  · intro size among
    obtain ⟨part, member, rfl⟩ := List.mem_map.mp among
    exact List.length_pos_iff.mpr (each part member)

end Query

end RecordMapper
