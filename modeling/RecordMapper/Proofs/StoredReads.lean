import RecordMapper.Engine.World
import RecordMapper.Proofs.BoundValues
import RecordMapper.Proofs.ServedReads

/-! Reads of a database in memory. A query without trusted text leaves the database as it is; a page of its result is a slice,
and a count the number of its rows. -/

namespace RecordMapper

namespace Database

/-- The rows of a query. It has none if it binds more values than a statement may. -/
def result (database : Database) (query : Query) : Option (List Row) :=
  if greatestParams < (Formula.bound query.filter).length then none else (query.run database.tables).toOption

/-- A statement that leaves a database as it is, and is answered by its rows if it has any. -/
structure Reads (database : Database) (statement : Statement) (served : Option (List Row)) : Prop where
  kept : (database.run statement).2 = database
  answered : (database.run statement).1.toOption = served.map .rows

theorem after_rows (rows : List Row) (database : Database) :
    database.after (.rows rows) database.tables = .ok database := by
  unfold after
  rw [if_neg (by simp)]

theorem limited_rows (rows : List Row) (plan : Option PagePlan) :
    limited plan.toList (.rows rows) =
      match slicedPage Word.signedBound (some rows) plan with
      | some page => .ok (.rows page)
      | none => .error .mismatch := by
  cases plan with
  | none => rfl
  | some plan =>
    simp only [Option.toList_some, limited, slice, slicedPage]
    split <;> rfl

theorem slicedPage_none (bound : Nat) (plan : Option PagePlan) : slicedPage bound none plan = none := by
  cases plan with
  | none => rfl
  | some plan => simp [slicedPage]

variable {database : Database} {command : Command}

theorem run_plain (plain : command.isTrusting = false) (untyped : ∀ text params, command ≠ .raw text params)
    (limits : List PagePlan) :
    database.run ⟨command, limits⟩ =
      if greatestParams < command.params.length then (.error "too many SQL variables", database)
      else
        match database.runCut ⟨command, limits⟩ with
        | .ok (answer, database) => (.ok answer, database)
        | .error fault => (.error fault, database) := by
  cases command with
  | raw text params => exact absurd rfl (untyped text params)
  | _ =>
    unfold run
    simp only [plain, Bool.false_eq_true, ↓reduceIte]
    rfl

theorem reads_of_rows (plain : command.isTrusting = false) (untyped : ∀ text params, command ≠ .raw text params)
    {rows : Except Fault (List Row)}
    (ran : runCommand database.tables command = rows.map fun rows => (.rows rows, database.tables)) (plan : Option PagePlan) :
    database.Reads ⟨command, plan.toList⟩
      (slicedPage Word.signedBound (if greatestParams < command.params.length then none else rows.toOption) plan) := by
  have same : database.run ⟨command, plan.toList⟩ = _ := run_plain plain untyped plan.toList
  by_cases many : greatestParams < command.params.length
  · rw [if_pos many] at same ⊢
    rw [slicedPage_none]
    exact ⟨congrArg Prod.snd same, congrArg (·.1.toOption) same⟩
  rw [if_neg many] at same ⊢
  cases rows with
  | error fault =>
    have cut : database.runCut ⟨command, plan.toList⟩ = .error fault := by
      rw [runCut, ran]
      rfl
    rw [cut] at same
    rw [Except.toOption, slicedPage_none]
    exact ⟨congrArg Prod.snd same, congrArg (·.1.toOption) same⟩
  | ok rows =>
    rw [Except.toOption]
    have limited_ := limited_rows rows plan
    cases sliced : slicedPage Word.signedBound (some rows) plan with
    | none =>
      rw [sliced] at limited_
      have cut : database.runCut ⟨command, plan.toList⟩ = .error .mismatch := by
        simp only [runCut, ran, Except.map, bind, Except.bind, limited_]
      rw [cut] at same
      exact ⟨congrArg Prod.snd same, congrArg (·.1.toOption) same⟩
    | some page =>
      rw [sliced] at limited_
      have cut : database.runCut ⟨command, plan.toList⟩ = .ok (.rows page, database) := by
        simp only [runCut, ran, Except.map, bind, Except.bind, limited_, after_rows]
        rfl
      rw [cut] at same
      exact ⟨congrArg Prod.snd same, congrArg (·.1.toOption) same⟩

theorem reads_select (database : Database) {query : Query} (plain : query.isTrusting = false) (plan : Option PagePlan) :
    database.Reads ⟨.select query, plan.toList⟩ (slicedPage Word.signedBound (database.result query) plan) := by
  have params : (Command.select query).params = Formula.bound query.filter := Building.params_select query []
  have untrusting : (Command.select query).isTrusting = false := plain
  have ran : runCommand database.tables (.select query) =
      (query.run database.tables).map fun rows => (.rows rows, database.tables) := by
    rw [runCommand]
    cases query.run database.tables <;> rfl
  have reads := reads_of_rows untrusting nofun ran plan
  rw [params] at reads
  exact reads

theorem params_counted {statement : Statement} {query : Query} (counted : statement.counted? = some query) :
    statement.command.params = Formula.bound query.filter := by
  obtain ⟨source, filter, rfl, rfl⟩ | rfl := Statement.counted?_eq_some.mp counted
  · have ones := Query.params_pieces { items := [.one], source, filter }
    simpa [Query.pieces, Command.params, Command.sections, Piece.params_append, Piece.separated, Item.pieces, groupPieces,
      sortPieces] using ones
  · exact Building.params_countResult query

theorem runCommand_counted {statement : Statement} {query : Query} (counted : statement.counted? = some query)
    (tables : Tables) :
    runCommand tables statement.command =
      ((query.run tables).map fun rows => [[("COUNT(1)", .int (Int64.ofNat rows.length))]]).map
        fun rows => (.rows rows, tables) := by
  obtain ⟨source, filter, rfl, rfl⟩ | rfl := Statement.counted?_eq_some.mp counted
  · rw [runCommand, RowSource.count, Query.count]
    cases Query.run tables ⟨[.one], source, filter, [], []⟩ <;> rfl
  · rw [runCommand, Query.count]
    cases query.run tables <;> rfl

theorem reads_counted (database : Database) {query : Query} (plain : query.isTrusting = false) {statement : Statement}
    (counted : statement.counted? = some query) :
    database.Reads statement
      ((database.result query).map fun rows => [[("COUNT(1)", .int (Int64.ofNat rows.length))]]) := by
  have ran := runCommand_counted counted database.tables
  have bound := params_counted counted
  have reads (plain : statement.command.isTrusting = false) (untyped : ∀ text params, statement.command ≠ .raw text params) :=
    reads_of_rows plain untyped ran none
  rw [bound] at reads
  have counts : (if greatestParams < (Formula.bound query.filter).length then none
      else ((query.run database.tables).map fun rows => [[("COUNT(1)", Cell.int (Int64.ofNat rows.length))]]).toOption) =
        (database.result query).map fun rows => [[("COUNT(1)", .int (Int64.ofNat rows.length))]] := by
    rw [result]
    split
    · rfl
    · cases query.run database.tables <;> rfl
  rw [counts] at reads
  obtain ⟨source, filter, rfl, rfl⟩ | rfl := Statement.counted?_eq_some.mp counted
  · exact reads rfl nofun
  · exact reads plain nofun

end Database

namespace World

/-- A world in which the link of a name answers from a database. -/
def Links (name : String) (database : Database) (world : World) : Prop :=
  ∃ link, world.link? name = some link ∧ link.state ≠ .lost ∧ link.backend = .tables database

theorem name_of_link? {name : String} {world : World} {link : Link} (found : world.link? name = some link) :
    link.name = name := by
  have named := List.find?_some found
  exact of_decide_eq_true named

theorem link?_setLink {name : String} {world : World} {link : Link} (found : world.link? name = some link) (changed : Link)
    (same : changed.name = name) : (world.setLink changed).link? name = some changed := by
  let replaced (old : Link) : Link := if old.name = changed.name then changed else old
  have named : ((fun link : Link => decide (link.name = name)) ∘ replaced) = fun link => decide (link.name = name) := by
    funext old
    by_cases own : old.name = changed.name
    · simp [replaced, own, same]
    · simp [replaced, own]
  have there : (world.links.map replaced).find? (fun link => decide (link.name = name)) = some (replaced link) := by
    rw [List.find?_map, named]
    exact congrArg (Option.map replaced) found
  have own : replaced link = changed := if_pos ((name_of_link? found).trans same.symm)
  exact there.trans (congrArg some own)

/-- A statement that a database of tables answers is answered by the world, and the link stays as it was. -/
theorem serves_of_reads (registry : Registry) (hasStore : Bool) (name : String) {database : Database} {statement : Statement}
    {served : Option (List Row)} (reads : database.Reads statement served) :
    (surroundings registry hasStore name).Serves (Links name database) statement served := by
  have ran : database.run statement = ((database.run statement).1, database) := Prod.ext rfl reads.kept
  have answered := reads.answered
  generalize (database.run statement).1 = answer at ran answered
  cases served with
  | some rows =>
    rintro world ⟨link, found, answering, backend⟩
    obtain rfl : answer = .ok (.rows rows) := by
      cases answer with
      | ok answer => exact congrArg Except.ok (Option.some.inj answered)
      | error fault => cases answered
    have named : link.name = name := name_of_link? found
    let kept : Link := { link with backend := .tables database }
    have ran_ : run name statement world = (.done (.rows rows), world.setLink kept) := by
      simp only [run, found, answering, backend, runTables, ran, ↓reduceIte]
      rfl
    refine ⟨world.setLink kept, ?_, kept, link?_setLink found kept named, answering, rfl⟩
    simp only [surroundings, fetch, ran_]
    rfl
  | none =>
    rintro world ⟨link, found, answering, backend⟩ rows later
    cases answer with
    | ok answer => cases answered
    | error fault => simp [surroundings, fetch, run, found, answering, backend, runTables, ran]

theorem links_note {registry : Registry} {hasStore : Bool} {name : String} {database : Database} {event : Event}
    {world : World} (linked : Links name database world) :
    Links name database ((surroundings registry hasStore name).note event world) := linked

theorem pages (registry : Registry) (hasStore : Bool) (name : String) (database : Database) {query : Query}
    (plain : query.isTrusting = false) :
    (surroundings registry hasStore name).Pages (Links name database) Word.signedBound query (database.result query) where
  note := links_note
  one := by decide
  page plan := serves_of_reads registry hasStore name (database.reads_select plain plan)

theorem tallies (registry : Registry) (hasStore : Bool) (name : String) (database : Database) {query : Query}
    (plain : query.isTrusting = false) :
    (surroundings registry hasStore name).Tallies (Links name database) query (database.result query) where
  note := links_note
  count counted := serves_of_reads registry hasStore name (database.reads_counted plain counted)

end World

/-- A table of tokens that nobody owns. -/
def tokenTable (tokens : List String) : Table where
  name := "token"
  columns := tokenMetadata.columns.map (Statement.columnDef tokenMetadata)
  rows := tokens.zipIdx.map fun (text, index) =>
    [("token", .text text), ("owner", .null), ("active", .int 1), ("blob", .blob [0]),
      (Table.numberColumn.name, .int (Int64.ofNat (index + 1)))]

def tokenDatabase (tokens : List String) : Database := { tables := [tokenTable tokens] }

namespace Work

def storedTokens : Surroundings World := World.surroundings ⟨[tokenMetadata]⟩ false "main"

def readingStored (tokens : List String) : Scene World where
  work := opened .sqlite {} (.ofMilliseconds 1) .connection
  keys := ⟨0, []⟩
  world := { links := [⟨"main", .sqlite, .tables (tokenDatabase tokens), .busy, false⟩], now := 0 }

theorem reads_readingStored (tokens : List String) :
    Reads (World.Links "main" (tokenDatabase tokens)) false (readingStored tokens) :=
  ⟨rfl, rfl, _, rfl, nofun, rfl⟩

end Work

end RecordMapper
