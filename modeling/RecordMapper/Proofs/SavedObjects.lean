import RecordMapper.Proofs.ChunkedBatches
import RecordMapper.Proofs.KeyedObjects
import RecordMapper.Proofs.PagedReads

/-! Objects that have been saved. Those without a key have got fresh ones, the statements insert the objects as they are
afterwards, and so are the records that are queued for the second store. -/

namespace RecordMapper

/-- The values that a row of an object binds. -/
def Metadata.rowOf (metadata : Metadata) (model : Model α) (object : α) : Outcome (List Value) := do
  let record ← metadata.encode model object
  metadata.valuesOf record metadata.columns

/-- A statement that has inserted rows of a table. -/
def Exchange.Inserts (table : TableRef) (columns : List String) (rows : List (List Value)) (exchange : Exchange) : Prop :=
  ∃ statement count, exchange = .execute statement (.done count) ∧ statement.command = .insert table columns rows ∧
    statement.params = rows.flatten

theorem Metadata.rows_of_records {metadata : Metadata} {model : Model α} {records : List Record} {saved : List α}
    (own : List.Forall₂ (metadata.RecordOf model) records saved)
    (insertable : ∀ record ∈ records, metadata.Insertable record) :
    saved.mapM (metadata.rowOf model) = .ok (records.map metadata.rowIn) := by
  rw [Outcome.mapM_eq_ok]
  induction own with
  | nil => exact .nil
  | cons first _ ih =>
    obtain ⟨here, later⟩ := List.forall_mem_cons.mp insertable
    obtain ⟨after, encoded, agrees⟩ := first
    refine .cons (Outcome.bind_eq_ok.mpr ⟨after, encoded, ?_⟩) (ih later)
    rw [← valuesOf_congr agrees]
    exact Statement.valuesOf_eq_ok_map.mpr ⟨here, rfl⟩

namespace Work

variable {s : Surroundings σ} {scene later : Scene (σ × List Exchange)}

theorem execute_ok {statement : Statement} {count : UInt64}
    (ran : (execute s.recording statement).run scene = (.ok count, later)) :
    ∃ world, later = { scene with world := (world, scene.world.2 ++ [.execute statement (.done count)]) } := by
  rw [execute] at ran
  cases closed : scene.work.isClosed with
  | true =>
    rw [run_send_closed _ closed] at ran
    cases ran
  | false =>
    obtain ⟨⟨reply, world⟩, answered⟩ :
      ∃ answer, s.execute statement (s.note (.sending scene.work.dialect statement) scene.world.1) = answer := ⟨_, rfl⟩
    rw [run_send _ closed] at ran
    simp only [Surroundings.recording, recordedAs, answered] at ran
    cases reply with
    | done found =>
      cases ran
      exact ⟨world, rfl⟩
    | _ => cases ran

theorem executeAll_ok {statements : List Statement} {total : UInt64}
    (ran : (executeAll s.recording statements).run scene = (.ok total, later)) :
    ∃ world exchanges, later = { scene with world := (world, scene.world.2 ++ exchanges) } ∧
      List.Forall₂ (fun statement exchange => ∃ count, exchange = .execute statement (.done count))
        statements exchanges := by
  induction statements generalizing scene later total with
  | nil =>
    cases ran
    exact ⟨_, [], by rw [List.append_nil], .nil⟩
  | cons statement rest ih =>
    simp only [executeAll, run_bind_ok] at ran
    obtain ⟨count, _, first, more, _, others, same⟩ := ran
    obtain ⟨world, rfl⟩ := execute_ok first
    obtain ⟨last, exchanges, rfl, sent⟩ := ih others
    cases same
    refine ⟨last, .execute statement (.done count) :: exchanges, ?_, .cons ⟨count, rfl⟩ sent⟩
    rw [List.append_assoc]
    rfl

theorem run_enqueue (s : Surroundings σ) (metadata : Metadata) (write : StoreWrite) (scene : Scene σ) :
    (liftM (enqueue s metadata write) : Attempt σ Unit).run scene =
      (.ok (), { scene with work := { scene.work with
        pending := scene.work.pending ++ if mirrors s scene.work metadata then [⟨metadata, write⟩] else [] } }) := by
  have changed :
      (if mirrors s scene.work metadata then { scene.work with pending := scene.work.pending ++ [⟨metadata, write⟩] }
        else scene.work) = { scene.work with
        pending := scene.work.pending ++ if mirrors s scene.work metadata then [⟨metadata, write⟩] else [] } := by
    split
    · rfl
    · rw [List.append_nil]
  exact congrArg (fun work => (Except.ok (), { scene with work })) changed

/-- An insertion that succeeds has inserted the records' rows and queued the records. -/
theorem insertAll_ok {metadata : Metadata} {records : List Record} {total : UInt64}
    (ran : (insertAll s.recording metadata records).run scene = (.ok total, later)) :
    ∃ table batches exchanges, TableRef.make scene.work.options.database metadata.table = .ok table ∧
      (∀ record ∈ records, metadata.Insertable record) ∧
      batches.flatten = records.map metadata.rowIn ∧
      List.Forall₂ (Exchange.Inserts table (metadata.columns.map Field.column)) batches exchanges ∧
      later.world.2 = scene.world.2 ++ exchanges ∧ later.keys = scene.keys ∧
      later.work = { scene.work with pending :=
        scene.work.pending ++ if mirrors s.recording scene.work metadata then [⟨metadata, .save records⟩] else [] } := by
  simp only [insertAll, run_bind_ok, run_outcome_ok] at ran
  obtain ⟨_, _, got, statements, _, ⟨made, rfl⟩, rows, middle, executed, _, last, queued, same⟩ := ran
  cases got
  cases same
  obtain ⟨table, batches, within, joined, insertable, rfl⟩ := Statement.insertChunked_ok made
  obtain ⟨world, exchanges, rfl, sent⟩ := executeAll_ok executed
  rw [run_enqueue] at queued
  cases queued
  refine ⟨table, batches.map (List.map metadata.rowIn), exchanges, within, insertable, ?_, ?_, rfl, rfl, rfl⟩
  · rw [← joined, List.map_flatten]
  · rw [List.forall₂_map_left_iff] at sent ⊢
    exact sent.imp fun batch exchange ⟨count, ran⟩ => ⟨_, count, ran, rfl, Statement.params_insertRows _ _ _⟩

theorem prepareSave_ok {model : Model α} {metadata : Metadata} {objects saved : List α} {records : List Record}
    (ran : prepareSave s.recording model objects scene = ((.ok (metadata, records), saved), later)) :
    s.registry.lookup model.name = .ok metadata ∧
      keyedAll s.recording metadata model objects scene = ((.ok records, saved), later) := by
  unfold prepareSave at ran
  cases looked : savable s.recording model objects with
  | error failure =>
    rw [looked] at ran
    cases ran
  | ok described =>
    obtain ⟨_, _, found⟩ := Outcome.bind_eq_ok.mp looked
    obtain ⟨⟨⟨outcome, fresh⟩, last⟩, keyed⟩ :
      ∃ reached, keyedAll s.recording described model objects scene = reached := ⟨_, rfl⟩
    simp only [looked, act_bind, keyed] at ran
    cases outcome with
    | error failure => cases ran
    | ok prepared =>
      cases ran
      exact ⟨found, keyed⟩

theorem save_ok {model : Model α} {objects saved : List α} {count : UInt64}
    (saves : save s.recording model objects scene = ((.ok count, saved), later)) :
    ∃ metadata records middle, s.registry.lookup model.name = .ok metadata ∧
      keyedAll s.recording metadata model objects scene = ((.ok records, saved), middle) ∧
      (insertAll s.recording metadata records).run middle = (.ok count, later) := by
  obtain ⟨⟨⟨prepared, fresh⟩, middle⟩, ran⟩ :
    ∃ reached, prepareSave s.recording model objects scene = reached := ⟨_, rfl⟩
  rw [save, act_bind, ran] at saves
  dsimp only at saves
  rw [act_bind] at saves
  obtain ⟨returned, last⟩ := Prod.mk.inj saves
  obtain ⟨outcome, rfl⟩ := Prod.mk.inj returned
  have inserted : recorded _ middle = (.ok count, later) := Prod.ext outcome last
  rw [recorded_ok, run_bind_ok] at inserted
  obtain ⟨⟨metadata, records⟩, _, settled, inserted⟩ := inserted
  obtain ⟨rfl, rfl⟩ := run_outcome_ok.mp settled
  obtain ⟨found, keyed⟩ := prepareSave_ok ran
  exact ⟨metadata, records, _, found, keyed, inserted⟩

theorem fresh_values {kind : Kind} (fits : kind = .int ∨ kind = .text) {keys : List Int64} {issues : List KeyIssue}
    (fresh : keys.Nodup ∧ ∀ key ∈ keys, 0 < key ∧ ∀ issue ∈ issues, issue.outcome ≠ .ok key) :
    (keys.map (keyValue kind)).Nodup ∧ ∀ value ∈ keys.map (keyValue kind),
      value.isZero = false ∧ value.kind? = some kind ∧
        ∀ issue ∈ issues, ∀ earlier, issue.outcome = .ok earlier → ∀ form, value ≠ keyValue form earlier := by
  obtain ⟨distinct, each⟩ := fresh
  refine ⟨distinct.map fun _ _ same => keyValue_inj same, List.forall_mem_map.mpr fun key member => ?_⟩
  obtain ⟨positive, new⟩ := each key member
  refine ⟨isZero_keyValue positive kind, kind_keyValue fits key, fun issue listed earlier outcome form same => ?_⟩
  exact new issue listed (keyValue_inj same ▸ outcome)

/-- A save that succeeds gives keys to the objects that have none and inserts what the objects then are. Objects with a key
stay as they are; the others change in nothing but their key, which is not zero, of the key's kind and none that the source
has given before or gives another object. The statements bind the rows of the objects in order, and if the model is mirrored,
records that hold the same are queued. -/
theorem save_inserts_keyed {model : Model α} {metadata : Metadata} (described : model.metadata = .ok metadata)
    (registered : s.registry.lookup model.name = .ok metadata) {defaultNode : Nat} {source : KeySource}
    (made : KeySource.make defaultNode = .ok source) {past : List KeyCall} (served : scene.keys = source.serveAll past)
    {objects saved : List α} (rekeys : ∀ object ∈ objects, model.Rekeys metadata object) {count : UInt64}
    (saves : save s.recording model objects scene = ((.ok count, saved), later)) (range : later.keys.InRange) :
    (∃ keys, metadata.Keyed model objects keys saved ∧ keys.Nodup ∧
      ∀ key ∈ keys, key.isZero = false ∧ key.kind? = some metadata.keyKind ∧
        ∀ issue ∈ source.issues past, ∀ earlier, issue.outcome = .ok earlier → ∀ form, key ≠ keyValue form earlier) ∧
    (∃ table batches exchanges, TableRef.make scene.work.options.database metadata.table = .ok table ∧
      saved.mapM (metadata.rowOf model) = .ok batches.flatten ∧
      List.Forall₂ (Exchange.Inserts table (metadata.columns.map Field.column)) batches exchanges ∧
      later.world.2 = scene.world.2 ++ exchanges) ∧
    ∃ records, List.Forall₂ (metadata.RecordOf model) records saved ∧
      later.work.pending =
        scene.work.pending ++ if mirrors s.recording scene.work metadata then [⟨metadata, .save records⟩] else [] := by
  obtain ⟨_, records, middle, found, keyed, inserted⟩ := save_ok saves
  obtain rfl := Except.ok.inj (registered.symm.trans found)
  obtain ⟨calls, keys, draws, given, own⟩ := keyedAll_ok described rekeys keyed
  obtain ⟨table, batches, exchanges, within, insertable, joined, sent, record, still, work⟩ := insertAll_ok inserted
  have last : later.keys = source.serveAll (past ++ calls) := by
    rw [still, draws.source, served, KeySource.serveAll_append]
  -- The clocks are in range at the end of the save, so that they were when its keys were drawn.
  have fresh := KeySource.drawn_fresh made (last ▸ range) (served ▸ draws.drawn)
  rw [draws.work] at within work
  refine ⟨⟨_, given, fresh_values (Model.keyKind_fits described) fresh⟩,
    ⟨table, batches, exchanges, within, ?_, sent, ?_⟩, records, own, ?_⟩
  · rw [joined]
    exact Metadata.rows_of_records own insertable
  · rw [record, draws.record]
  · rw [work]

/-- A token that holds nothing but its key. -/
def bareToken (key : String) : Json :=
  .fields [("token", .text key), ("owner", .null), ("active", .bool true), ("blob", .list []), ("cache", .text "")]

/-- A unit of work whose source has given one key. -/
def savingTokens : Scene (Unit × List Exchange) :=
  ⟨opened .mysql {} (.ofMilliseconds 1) .connection, KeySource.serveAll [⟨5, none⟩] ⟨0, []⟩, ((), [])⟩

/-- Two tokens are saved while the clock stands before the key that was given. The first has no key and gets the next one. -/
theorem two_tokens_saved :
    let (reply, later) := save tokens.recording token [bareToken "", bareToken "k"] savingTokens
    reply = (.ok 0, [bareToken "20971521", bareToken "k"]) ∧
      (∃ keys, tokenMetadata.Keyed token [bareToken "", bareToken "k"] keys reply.2 ∧ keys.Nodup) ∧
      ∃ batches, reply.2.mapM (tokenMetadata.rowOf token) = .ok batches.flatten ∧
        List.Forall₂ (Exchange.Inserts ⟨none, "token"⟩ ["token", "owner", "active", "blob"]) batches later.world.2 := by
  have described : token.metadata = .ok tokenMetadata := rfl
  have registered : tokens.registry.lookup token.name = .ok tokenMetadata := rfl
  have made : KeySource.make 0 = .ok ⟨0, []⟩ := rfl
  have served : savingTokens.keys = KeySource.serveAll [⟨5, none⟩] ⟨0, []⟩ := rfl
  have saves : save tokens.recording token [bareToken "", bareToken "k"] savingTokens =
      ((.ok 0, [bareToken "20971521", bareToken "k"]),
        (save tokens.recording token [bareToken "", bareToken "k"] savingTokens).2) := rfl
  have rekeys : ∀ object ∈ [bareToken "", bareToken "k"], token.Rekeys tokenMetadata object := by
    rintro object _ record key _ _ _ ⟨⟩
    exact ⟨_, rfl, fun _ => rfl⟩
  have range : (save tokens.recording token [bareToken "", bareToken "k"] savingTokens).2.keys.InRange := by
    have reached : (save tokens.recording token [bareToken "", bareToken "k"] savingTokens).2.keys =
        KeySource.setClock ⟨0, []⟩ 0 ⟨5, 1⟩ := rfl
    intro node _
    rw [reached, KeySource.clock_setClock]
    split
    · decide
    · exact (by decide : 0 < momentSpan)
  obtain ⟨⟨keys, keyed, distinct, _⟩, ⟨table, batches, exchanges, within, rows, inserts, record⟩, _⟩ :=
    save_inserts_keyed described registered made served rekeys saves range
  cases within
  exact ⟨rfl, ⟨keys, keyed, distinct⟩, batches, rows, record ▸ inserts⟩

end Work

end RecordMapper
