import RecordMapper.Proofs.PickedPieces

/-! Templates: texts with open places, which pieces leave where they are cut. Cut at their parameters, pieces have a text
that depends on the placeholders only through the open places; cut at trusted expressions, what is left is the text that
the pieces themselves are answerable for. -/

namespace RecordMapper

/-- A text with open places. -/
structure Template where
  opening : String
  /-- The text after each place. -/
  rest : List String

namespace Template

def places (template : Template) : Nat := template.rest.length

def fill (template : Template) (marks : List String) : String :=
  template.opening ++ String.join (List.zipWith (· ++ ·) marks template.rest)

def plain (text : String) : Template := ⟨text, []⟩

/-- Another text after an opening and what follows its places. -/
def after (second : Template) (opening : String) : List String → Template
  | [] => ⟨opening ++ second.opening, second.rest⟩
  | next :: rest => ⟨opening, (second.after next rest).opening :: (second.after next rest).rest⟩

def append (first second : Template) : Template := second.after first.opening first.rest

/-- The text of pieces with open places where they are cut. -/
def ofPieces (dialect : Dialect) (cut : Piece → Bool) : List Piece → Template
  | [] => plain ""
  | piece :: rest =>
    let behind := ofPieces dialect cut rest
    if cut piece then ⟨"", behind.opening :: behind.rest⟩ else ⟨piece.text dialect 1 ++ behind.opening, behind.rest⟩

@[simp] theorem fill_plain (text : String) : (plain text).fill [] = text := by
  simp [plain, fill]

theorem fill_after (second : Template) (opening : String) {rest marks : List String} (each : marks.length = rest.length)
    (more : List String) :
    (second.after opening rest).fill (marks ++ more) = fill ⟨opening, rest⟩ marks ++ second.fill more := by
  induction rest generalizing opening marks with
  | nil =>
    obtain rfl : marks = [] := List.eq_nil_of_length_eq_zero each
    simp [after, fill, String.append_assoc]
  | cons next rest ih =>
    obtain ⟨mark, marks, rfl⟩ := List.exists_cons_of_length_eq_add_one each
    have shorter : marks.length = rest.length := by simpa using each
    have later := ih next shorter
    simp only [fill] at later
    simp [after, fill, later, String.append_assoc]

/-- Places keep their order when one text follows another. -/
theorem fill_append (first second : Template) {marks : List String} (each : marks.length = first.places)
    (more : List String) : (first.append second).fill (marks ++ more) = first.fill marks ++ second.fill more :=
  fill_after second first.opening each more

theorem places_append (first second : Template) : (first.append second).places = first.places + second.places := by
  obtain ⟨opening, rest⟩ := first
  induction rest generalizing opening with
  | nil => exact (Nat.zero_add _).symm
  | cons next rest ih =>
    have later := ih next
    simp only [append, places, after, List.length_cons] at later ⊢
    omega

theorem fill_joined (first second : Template) (text : String) {marks : List String} (each : marks.length = first.places)
    (more : List String) :
    ((first.append (.plain text)).append second).fill (marks ++ more) = first.fill marks ++ text ++ second.fill more := by
  have extended : (first.append (.plain text)).places = first.places := places_append first _
  have front : (first.append (.plain text)).fill marks = first.fill marks ++ text := by
    have whole := fill_append first (.plain text) each []
    rwa [List.append_nil, fill_plain] at whole
  rw [fill_append _ second (by rw [extended, each]), front]

theorem places_ofPieces (dialect : Dialect) (cut : Piece → Bool) (pieces : List Piece) :
    (ofPieces dialect cut pieces).places = (pieces.filter cut).length := by
  induction pieces with
  | nil => rfl
  | cons piece rest ih =>
    rw [ofPieces, List.filter_cons]
    split
    · exact congrArg (· + 1) ih
    · exact ih

theorem fill_cons_cut {dialect : Dialect} {cut : Piece → Bool} {piece : Piece} (here : cut piece = true) (rest : List Piece)
    (mark : String) (marks : List String) :
    (ofPieces dialect cut (piece :: rest)).fill (mark :: marks) = mark ++ (ofPieces dialect cut rest).fill marks := by
  simp [ofPieces, here, fill, String.append_assoc]

theorem fill_cons_kept {dialect : Dialect} {cut : Piece → Bool} {piece : Piece} (kept : cut piece = false)
    (rest : List Piece) (marks : List String) :
    (ofPieces dialect cut (piece :: rest)).fill marks = piece.text dialect 1 ++ (ofPieces dialect cut rest).fill marks := by
  simp [ofPieces, kept, fill, String.append_assoc]

/-- Filled with what has been cut out, a template is the text of its pieces. -/
theorem fill_texts (dialect : Dialect) (cut : Piece → Bool) (pieces : List Piece) :
    (ofPieces dialect cut pieces).fill ((pieces.filter cut).map (Piece.text dialect 1)) =
      String.join (pieces.map (Piece.text dialect 1)) := by
  induction pieces with
  | nil => exact fill_plain ""
  | cons piece rest ih =>
    cases here : cut piece with
    | true => rw [List.filter_cons_of_pos here, List.map_cons, fill_cons_cut here, ih, List.map_cons, String.join_cons]
    | false =>
      rw [List.filter_cons_of_neg (by simp [here]), fill_cons_kept here, ih, List.map_cons, String.join_cons]

end Template

/-- The dialect with other placeholders. -/
def Dialect.marking (dialect : Dialect) (placeholder : Nat → String) : Dialect :=
  { dialect with placeholder := placeholder }

namespace Template

def atSlots (dialect : Dialect) (pieces : List Piece) : Template :=
  ofPieces dialect (fun piece => piece.value?.isSome) pieces

/-- The placeholders of so many parameters. -/
def numbered (placeholder : Nat → String) (count : Nat) : List String := (List.range' 1 count).map placeholder

theorem length_numbered (placeholder : Nat → String) (count : Nat) : (numbered placeholder count).length = count := by
  rw [numbered, List.length_map, List.length_range']

theorem places_atSlots (dialect : Dialect) (pieces : List Piece) :
    (atSlots dialect pieces).places = (Piece.params pieces).length := by
  rw [atSlots, places_ofPieces, Piece.params, List.length_filterMap_eq_countP, List.countP_eq_length_filter]

theorem fill_range (dialect : Dialect) (placeholder : Nat → String) (pieces : List Piece) (index : Nat) :
    (atSlots dialect pieces).fill ((List.range' index (Piece.params pieces).length).map placeholder) =
      String.join (Piece.texts (dialect.marking placeholder) index pieces) := by
  induction pieces generalizing index with
  | nil => exact fill_plain ""
  | cons piece rest ih =>
    rw [Piece.texts, String.join_cons, atSlots]
    cases piece with
    | slot value =>
      -- a parameter is the only piece that takes a placeholder, and the only one that moves the number on
      rw [Piece.params_slot, List.length_cons, List.range'_succ, List.map_cons, fill_cons_cut rfl]
      exact congrArg _ (ih (index + 1))
    | fixed _ | name _ | raw _ | type _ _ | limit _ =>
      rw [fill_cons_kept rfl]
      exact congrArg _ (ih index)

/-- The text of pieces in a dialect is their template with the dialect's placeholders in its places. -/
theorem fill_numbered (dialect : Dialect) (placeholder : Nat → String) {pieces : List Piece} {count : Nat}
    (bound : (Piece.params pieces).length = count) :
    (atSlots dialect pieces).fill (numbered placeholder count) = Piece.join (dialect.marking placeholder) pieces := by
  rw [numbered, ← bound]
  exact fill_range dialect placeholder pieces 1

/-- Placeholders of two halves are those of the whole if they do not show their number. -/
theorem numbered_append {placeholder : Nat → String} {first second : Nat}
    (steady : (∀ index, placeholder index = placeholder 1) ∨ second = 0) :
    numbered placeholder first ++ numbered placeholder second = numbered placeholder (first + second) := by
  rcases steady with same | rfl
  · have replicated (count : Nat) : numbered placeholder count = List.replicate count (placeholder 1) := by
      rw [numbered, List.map_congr_left fun index _ => same index, List.map_const', List.length_range']
    rw [replicated, replicated, replicated, List.replicate_append_replicate]
  · simp [numbered]

end Template

end RecordMapper
