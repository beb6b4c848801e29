import RecordMapper.Proofs.SoundModels

/-! What a column of an inferred kind can bind. A default value suggests a kind that binds it, but for lists: they suggest
bytes whatever the size of their integers, and are bound only if these are octets. -/

namespace RecordMapper

/-- A list of integers has no greater ones than octets. -/
def Json.InOctets : Json → Prop
  | .list items => ∀ n, .int n ∈ items → n ≤ 255
  | _ => True

namespace Value

/-- Unsigned integers are the octets of a blob exactly if all of them are at most 255. -/
theorem octets?_isSome {items : List Json} (unsigned : items.all Kind.infer.isUnsigned = true) :
    (∃ octets, octets? items = some octets) ↔ ∀ n, .int n ∈ items → n ≤ 255 := by
  constructor
  · rintro ⟨octets, read⟩ n member
    rw [octets?_eq_some read] at member
    obtain ⟨octet, _, same⟩ := List.mem_map.mp member
    cases same
    have := octet.toNat_lt
    omega
  · intro small
    induction items with
    | nil => exact ⟨[], rfl⟩
    | cons item rest ih =>
      rw [List.all_cons, Bool.and_eq_true] at unsigned
      obtain ⟨first, others⟩ := unsigned
      obtain ⟨octets, later⟩ := ih others fun n member => small n (List.mem_cons_of_mem _ member)
      cases item with
      | int n =>
        have low : 0 ≤ n := of_decide_eq_true first
        have high := small n List.mem_cons_self
        have octet : octet? (.int n) = some (UInt8.ofNat n.toNat) := if_pos ⟨low, by omega⟩
        exact ⟨_, by simp only [octets?, octet, later]; rfl⟩
      | _ => cases first

theorem ofJson_eq_ok {kind : Kind} {json : Json} {value : Value} :
    ofJson kind json = .ok value ↔ ofJson? kind json = some value := by
  unfold ofJson
  cases ofJson? kind json <;> simp

end Value

namespace Kind

/-- A value is bound in the kind that it suggests, unless it is a list with greater integers than octets. -/
theorem bound_iff_of_infer {json : Json} {kind : Kind} (suggested : infer json = some kind) :
    (∃ value, Value.ofJson? kind json = some value) ↔ json.InOctets := by
  cases json with
  | null => cases suggested
  | fields entries => cases suggested
  | list items =>
    rw [infer] at suggested
    split at suggested
    next unsigned =>
      cases suggested
      rw [Json.InOctets, ← Value.octets?_isSome unsigned]
      simp [Value.ofJson?]
    next => cases suggested
  | bool _ | int _ | float _ | text _ =>
    cases suggested
    exact iff_of_true ⟨_, rfl⟩ trivial

/-- What suggests a kind is not null, so its value is of that kind. -/
theorem kind?_of_infer {json : Json} {kind : Kind} {value : Value} (suggested : infer json = some kind)
    (bound : Value.ofJson? kind json = some value) : value.kind? = some kind := by
  cases json with
  | null => cases suggested
  | fields entries => cases suggested
  | list items =>
    obtain ⟨unsigned, rfl⟩ : items.all infer.isUnsigned = true ∧ bytes = kind := by simpa [infer] using suggested
    obtain ⟨octets, _, rfl⟩ := Option.map_eq_some_iff.mp bound
    rfl
  | bool _ | int _ | float _ | text _ =>
    cases suggested
    cases bound
    rfl

end Kind

namespace Model

/-- The kind of a column that none is declared for is the one that its default value suggests. -/
theorem infer_default {model : Model α} {metadata : Metadata} (described : model.metadata = .ok metadata)
    (distinct : metadata.blank.names.Nodup) {field : Field} (member : field ∈ metadata.columns)
    (undeclared : field.column ∉ model.kinds.map Prod.fst) :
    ∃ default, metadata.blank.value? field.column = some default ∧ Kind.infer default = some field.kind := by
  obtain ⟨_, _, _, listed, _⟩ := metadata_eq_ok described
  obtain ⟨describable, same⟩ := describeAll_eq_ok.mp listed
  obtain ⟨inside, stored⟩ := Metadata.mem_columns.mp member
  rw [same] at inside
  obtain ⟨⟨column, default⟩, entry, rfl⟩ := List.mem_map.mp inside
  have taken : column ∉ model.ignored := by simpa [fieldOf] using stored
  have unnamed : firstNamed? column model.kinds = none := firstNamed?_eq_none_iff.mpr undeclared
  obtain ⟨_, known⟩ := describable _ entry taken
  rw [unnamed, Option.none_or] at known
  obtain ⟨kind, suggested⟩ := Option.isSome_iff_exists.mp known
  refine ⟨default, ?_, ?_⟩
  · rw [Record.value?_eq_firstNamed?]
    exact firstNamed?_of_nodup distinct entry
  · rw [fieldOf, unnamed, Option.none_or, suggested, Option.getD_some]

/-- Values are bound in the kinds that they suggest, and the defaults of a described model in the kinds of their columns, but
for lists of greater integers than octets, which suggest bytes as well. -/
theorem inferred_kinds_bind (model : Model α) :
    (∀ json kind, Kind.infer json = some kind →
      ((∃ value, Value.ofJson kind json = .ok value) ↔ json.InOctets) ∧
      ∀ value, Value.ofJson kind json = .ok value → value.kind? = some kind) ∧
    ∀ metadata, model.metadata = .ok metadata → metadata.blank.names.Nodup →
      ∀ field ∈ metadata.columns, field.column ∉ model.kinds.map Prod.fst →
        ∃ default, metadata.blank.value? field.column = some default ∧ default.isNull = false ∧
          ((∃ value, metadata.valueOf metadata.blank field = .ok value) ↔ default.InOctets) ∧
          ∀ value, metadata.valueOf metadata.blank field = .ok value → value.kind? = some field.kind := by
  refine ⟨fun json kind suggested => ?_, fun metadata described distinct field member undeclared => ?_⟩
  · simp only [Value.ofJson_eq_ok]
    exact ⟨Kind.bound_iff_of_infer suggested, fun _ => Kind.kind?_of_infer suggested⟩
  · obtain ⟨default, found, suggested⟩ := infer_default described distinct member undeclared
    have filled : default.isNull = false := by
      cases default with
      | null => cases suggested
      | _ => rfl
    simp only [Metadata.valueOf_eq_ok, found, Option.getD_some]
    exact ⟨default, rfl, filled, Kind.bound_iff_of_infer suggested, fun _ => Kind.kind?_of_infer suggested⟩

/-- Attachments, with a default for what they hold. -/
def attachment (content : List Json) : Model Json where
  name := "Attachment"
  table := "attachment"
  blank := .fields [("id", .int 0), ("content", .list content)]
  encode := .ok
  decode := .ok

def attachmentMetadata (content : List Json) : Metadata where
  typeName := "Attachment"
  table := "attachment"
  fields := [⟨"id", .int, false, true, none⟩, ⟨"content", .bytes, false, false, none⟩]
  keyColumn := "id"
  keyKind := .int
  mirrored := false
  blank := [("id", .int 0), ("content", .list content)]

/-- Octets are inferred to be bytes, and bound as such. -/
theorem octets_bound :
    let metadata := attachmentMetadata [.int 0, .int 255]
    (attachment [.int 0, .int 255]).metadata = .ok metadata ∧
      ∃ value, metadata.valueOf metadata.blank ⟨"content", .bytes, false, false, none⟩ = .ok value := by
  have described : (attachment [.int 0, .int 255]).metadata = .ok (attachmentMetadata [.int 0, .int 255]) := rfl
  obtain ⟨_, found, _, bound, _⟩ := (inferred_kinds_bind _).2 _ described (by decide : ["id", "content"].Nodup)
    ⟨"content", .bytes, false, false, none⟩ (by simp [attachmentMetadata, Metadata.columns]) List.not_mem_nil
  refine ⟨described, bound.mpr ?_⟩
  cases found
  intro n member
  simp only [List.mem_cons, Json.int.injEq, List.not_mem_nil, or_false] at member
  omega

/-- A greater integer is inferred to be bytes too. The model is described, and its default object cannot be stored. -/
theorem great_integer_unbound :
    let metadata := attachmentMetadata [.int 300]
    Kind.infer (.list [.int 300]) = some .bytes ∧ (¬ ∃ value, Value.ofJson .bytes (.list [.int 300]) = .ok value) ∧
      (attachment [.int 300]).kinds = [] ∧ (attachment [.int 300]).metadata = .ok metadata ∧
      ∃ field ∈ metadata.columns, metadata.blank.value? field.column = some (.list [.int 300]) ∧
        ¬ ∃ value, metadata.valueOf metadata.blank field = .ok value :=
  ⟨rfl, nofun, rfl, rfl, ⟨"content", .bytes, false, false, none⟩, by simp [attachmentMetadata, Metadata.columns], rfl, nofun⟩

end Model

end RecordMapper
