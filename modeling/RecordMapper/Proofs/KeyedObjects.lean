import RecordMapper.Proofs.FreshKeys
import RecordMapper.Proofs.ModelRecords
import RecordMapper.Proofs.WorkEffects
import RecordMapper.Work.Writes

/-! Keys for objects that are to be saved. Those without a key get fresh ones, in order, and the records that are saved are
those of the objects as they are afterwards. -/

namespace RecordMapper

/-- Two records that hold the same under every name. -/
def Record.Agrees (record other : Record) : Prop := ∀ name, record.value? name = other.value? name

/-- An object whose record is given another key becomes an object that has this key and is the same otherwise. -/
def Model.Rekeys (model : Model α) (metadata : Metadata) (object : α) : Prop :=
  ∀ record key rekeyed, model.encode object = .ok (.fields record) → key.kind? = some metadata.keyKind →
    model.decode (.fields (metadata.setKey record key)) = .ok rekeyed →
      ∃ after : Record, model.encode rekeyed = .ok (.fields after) ∧ after.Agrees (metadata.setKey record key)

/-- Objects, the keys given to them, and the objects afterwards. Those with a key are as they were; the others have got the
keys in order and hold the same under every other name. -/
inductive Metadata.Keyed (metadata : Metadata) (model : Model α) : List α → List Value → List α → Prop
  | nil : Keyed metadata model [] [] []
  | kept {object : α} {objects saved : List α} {keys : List Value} {record : Record} {key : Value}
      (encoded : metadata.encode model object = .ok record) (found : metadata.keyOf record = .ok key)
      (present : key.isZero = false) (rest : Keyed metadata model objects keys saved) :
      Keyed metadata model (object :: objects) keys (object :: saved)
  | given {object fresh : α} {objects saved : List α} {keys : List Value} {record after : Record} {key given : Value}
      (encoded : metadata.encode model object = .ok record) (found : metadata.keyOf record = .ok key)
      (missing : key.isZero = true) (reencoded : metadata.encode model fresh = .ok after)
      (refound : metadata.keyOf after = .ok given)
      (others : ∀ name, name ≠ metadata.keyColumn → after.value? name = record.value? name)
      (rest : Keyed metadata model objects keys saved) :
      Keyed metadata model (object :: objects) (given :: keys) (fresh :: saved)

namespace Metadata

variable {metadata : Metadata} {model : Model α} {record other : Record}

/-- A record that an object is saved as holds what the object's own does. -/
def RecordOf (metadata : Metadata) (model : Model α) (record : Record) (object : α) : Prop :=
  ∃ after, metadata.encode model object = .ok after ∧ record.Agrees after

theorem checkModel_of_described (described : model.metadata = .ok metadata) : metadata.checkModel model = .ok () :=
  if_pos (Model.metadata_eq_ok described).1.symm

theorem encode_eq_ok (described : model.metadata = .ok metadata) {object : α} :
    metadata.encode model object = .ok record ↔ model.encode object = .ok (.fields record) := by
  simp only [encode, checkModel_of_described described, Outcome.bind_eq_ok, true_and, exists_const]
  cases model.encode object with
  | error reason => exact iff_of_false nofun nofun
  | ok json =>
    cases json with
    | fields found => simp [Outcome.pure_eq_ok]
    | _ => exact iff_of_false nofun nofun

theorem decode_eq_ok (described : model.metadata = .ok metadata) {object : α} :
    metadata.decode model record = .ok object ↔ model.decode (.fields record) = .ok object := by
  simp only [decode, checkModel_of_described described, Outcome.bind_eq_ok, true_and, exists_const]
  cases model.decode (.fields record) with
  | error reason => exact iff_of_false nofun nofun
  | ok found => simp [Outcome.pure_eq_ok]

theorem keyOf_congr (agrees : record.Agrees other) : metadata.keyOf record = metadata.keyOf other := by
  rw [keyOf, keyOf, agrees metadata.keyColumn]

theorem valuesOf_congr (agrees : record.Agrees other) (fields : List Field) :
    metadata.valuesOf record fields = metadata.valuesOf other fields := by
  have each : metadata.valueOf record = metadata.valueOf other := by
    funext field
    rw [valueOf, valueOf, agrees field.column]
  rw [valuesOf, valuesOf, each]

theorem setKey_value? (key : Value) (name : String) :
    (metadata.setKey record key).value? name = if name = metadata.keyColumn then some key.toJson else record.value? name :=
  Record.value?_put metadata.keyColumn name key.toJson record

end Metadata

theorem kind_keyValue {kind : Kind} (fits : kind = .int ∨ kind = .text) (key : Int64) :
    (keyValue kind key).kind? = some kind := by
  rcases fits with rfl | rfl <;> rfl

theorem ofJson_keyValue {kind : Kind} (fits : kind = .int ∨ kind = .text) (key : Int64) :
    Value.ofJson kind (keyValue kind key).toJson = .ok (keyValue kind key) := by
  rcases fits with rfl | rfl
  · simp [keyValue, Value.toJson, Value.ofJson, Value.ofJson?]
  · rfl

theorem isZero_keyValue {key : Int64} (positive : 0 < key) (kind : Kind) : (keyValue kind key).isZero = false := by
  have given : key ≠ 0 := (Int64.ne_of_lt positive).symm
  cases kind with
  | text => simpa [keyValue, Value.isZero] using text_ne_empty key.toInt
  | _ => simpa [keyValue, Value.isZero] using given

theorem keyValue_inj {kind other : Kind} {key second : Int64} (same : keyValue kind key = keyValue other second) :
    key = second := by
  cases kind with
  | text =>
    cases other with
    | text => exact keyValue_text_inj same
    | _ => cases same
  | _ =>
    cases other with
    | text => cases same
    | _ => exact Value.int.inj same

theorem Model.Rekeys.rekeyed {model : Model α} {metadata : Metadata} (described : model.metadata = .ok metadata)
    {object fresh : α} (rekeys : model.Rekeys metadata object) {record : Record}
    (encoded : metadata.encode model object = .ok record) (key : Int64)
    (decoded : metadata.decode model (metadata.setKey record (keyValue metadata.keyKind key)) = .ok fresh) :
    ∃ after, metadata.encode model fresh = .ok after ∧
      (metadata.setKey record (keyValue metadata.keyKind key)).Agrees after ∧
      metadata.keyOf after = .ok (keyValue metadata.keyKind key) ∧
      ∀ name, name ≠ metadata.keyColumn → after.value? name = record.value? name := by
  have fits := Model.keyKind_fits described
  obtain ⟨after, reencoded, agrees⟩ := rekeys record _ fresh ((Metadata.encode_eq_ok described).mp encoded)
    (kind_keyValue fits key) ((Metadata.decode_eq_ok described).mp decoded)
  refine ⟨after, (Metadata.encode_eq_ok described).mpr reencoded, fun name => (agrees name).symm, ?_,
    fun name other => ?_⟩
  · rw [Metadata.keyOf_congr agrees, Metadata.keyOf, Metadata.setKey_value?, if_pos rfl]
    exact ofJson_keyValue fits key
  · rw [agrees name, Metadata.setKey_value?, if_neg other]

namespace Work

theorem run_freshKey (s : Surroundings σ) (metadata : Metadata) (scene : Scene σ) :
    (freshKey s metadata).run scene =
      match scene.keys.serve ⟨(s.reading scene.world).1, scene.work.options.node⟩ with
      | (.ok key, keys) => (.ok (keyValue metadata.keyKind key), { scene with keys, world := (s.reading scene.world).2 })
      | (.error failure, _) => (.error failure, { scene with world := (s.reading scene.world).2 }) := by
  have asked : (liftM (ask s.reading) : Attempt σ Int).run scene =
      (.ok (s.reading scene.world).1, { scene with world := (s.reading scene.world).2 }) := rfl
  rw [freshKey, run_bind, asked]
  simp only [run_bind, run_get, run_outcome, KeySource.serve]
  cases scene.keys.next (s.reading scene.world).1 scene.work.options.node <;> rfl

/-- Keys are drawn between two scenes by calls on the source, and nothing else has happened to the unit of work. -/
structure Draws (before after : Scene (σ × List Exchange)) (calls : List KeyCall) (keys : List Int64) : Prop where
  source : after.keys = before.keys.serveAll calls
  drawn : (before.keys.issues calls).map KeyIssue.outcome = keys.map .ok
  work : after.work = before.work
  record : after.world.2 = before.world.2

theorem Draws.refl (scene : Scene (σ × List Exchange)) : Draws scene scene [] [] := ⟨rfl, rfl, rfl, rfl⟩

theorem Draws.trans {before middle after : Scene (σ × List Exchange)} {calls more : List KeyCall}
    {keys others : List Int64} (first : Draws before middle calls keys) (second : Draws middle after more others) :
    Draws before after (calls ++ more) (keys ++ others) where
  source := by rw [second.source, first.source, KeySource.serveAll_append]
  drawn := by rw [KeySource.issues_append, List.map_append, first.drawn, ← first.source, second.drawn, List.map_append]
  work := second.work.trans first.work
  record := second.record.trans first.record

theorem freshKey_ok {s : Surroundings σ} {metadata : Metadata} {scene later : Scene (σ × List Exchange)} {value : Value}
    (ran : (freshKey s.recording metadata).run scene = (.ok value, later)) :
    ∃ call key, Draws scene later [call] [key] ∧ value = keyValue metadata.keyKind key := by
  rw [run_freshKey] at ran
  cases served : scene.keys.serve ⟨(s.recording.reading scene.world).1, scene.work.options.node⟩ with
  | mk outcome keys =>
    rw [served] at ran
    cases outcome with
    | error failure => cases ran
    | ok key =>
      cases ran
      refine ⟨⟨_, _⟩, key, ⟨(congrArg Prod.snd served).symm, ?_, rfl, rfl⟩, rfl⟩
      exact congrArg (fun reply => [Prod.fst reply]) served

section

variable {s : Surroundings σ} {model : Model α} {metadata : Metadata} {scene later : Scene (σ × List Exchange)}

theorem keyed_ok {object fresh : α} {record : Record}
    (ran : (keyed s.recording metadata model object).run scene = (.ok (record, fresh), later)) :
    ∃ original key, metadata.encode model object = .ok original ∧ metadata.keyOf original = .ok key ∧
      (key.isZero = false ∧ record = original ∧ fresh = object ∧ later = scene ∨
        key.isZero = true ∧ ∃ call given, Draws scene later [call] [given] ∧
          record = metadata.setKey original (keyValue metadata.keyKind given) ∧
          metadata.decode model record = .ok fresh) := by
  simp only [keyed, run_bind_ok, run_outcome_ok] at ran
  obtain ⟨original, _, ⟨encoded, rfl⟩, key, _, ⟨found, rfl⟩, ran⟩ := ran
  refine ⟨original, key, encoded, found, ?_⟩
  split at ran
  next missing =>
    simp only [run_bind_ok, run_outcome_ok] at ran
    obtain ⟨value, middle, drawn, object, _, ⟨decoded, rfl⟩, same⟩ := ran
    obtain ⟨call, given, draws, rfl⟩ := freshKey_ok drawn
    cases same
    exact .inr ⟨missing, call, given, draws, rfl, decoded⟩
  next present =>
    cases ran
    exact .inl ⟨by simpa using present, rfl, rfl, rfl⟩

theorem keyedAll_cons {object : α} {objects saved : List α} {records : List Record}
    (ran : keyedAll s.recording metadata model (object :: objects) scene = ((.ok records, saved), later)) :
    ∃ record fresh middle others more,
      (keyed s.recording metadata model object).run scene = (.ok (record, fresh), middle) ∧
      keyedAll s.recording metadata model objects middle = ((.ok others, more), later) ∧
      records = record :: others ∧ saved = fresh :: more := by
  rw [keyedAll, act_bind] at ran
  generalize (keyed s.recording metadata model object).run scene = first at ran ⊢
  obtain ⟨outcome, middle⟩ := first
  cases outcome with
  | error failure => cases ran
  | ok result =>
    obtain ⟨record, fresh⟩ := result
    simp only [act_bind] at ran
    obtain ⟨⟨⟨outcome, more⟩, last⟩, rest⟩ :
      ∃ reached, keyedAll s.recording metadata model objects middle = reached := ⟨_, rfl⟩
    rw [rest] at ran
    cases outcome with
    | error failure => cases ran
    | ok others =>
      cases ran
      exact ⟨record, fresh, middle, others, more, rfl, rest, rfl, rfl⟩

/-- What giving keys to objects comes to. -/
theorem keyedAll_ok (described : model.metadata = .ok metadata) {objects saved : List α} {records : List Record}
    (rekeys : ∀ object ∈ objects, model.Rekeys metadata object)
    (ran : keyedAll s.recording metadata model objects scene = ((.ok records, saved), later)) :
    ∃ calls keys, Draws scene later calls keys ∧
      metadata.Keyed model objects (keys.map (keyValue metadata.keyKind)) saved ∧
      List.Forall₂ (metadata.RecordOf model) records saved := by
  induction objects generalizing scene records saved with
  | nil =>
    cases ran
    exact ⟨[], [], .refl _, .nil, .nil⟩
  | cons object rest ih =>
    obtain ⟨record, fresh, middle, others, more, first, later, rfl, rfl⟩ := keyedAll_cons ran
    obtain ⟨rekey, rekeys⟩ := List.forall_mem_cons.mp rekeys
    obtain ⟨calls, keys, draws, keyed, records⟩ := ih rekeys later
    -- The first object draws one key or none, and the others go on from there.
    obtain ⟨original, key, encoded, found, ⟨present, rfl, rfl, rfl⟩ | ⟨missing, call, given, drawn, rfl, decoded⟩⟩ :=
      keyed_ok first
    · exact ⟨calls, keys, draws, .kept encoded found present keyed, .cons ⟨_, encoded, fun _ => rfl⟩ records⟩
    · obtain ⟨after, reencoded, same, refound, others⟩ := rekey.rekeyed described encoded given decoded
      refine ⟨_, given :: keys, drawn.trans draws, .given encoded found missing reencoded refound others keyed, ?_⟩
      exact .cons ⟨after, reencoded, same⟩ records

end

end Work

end RecordMapper
