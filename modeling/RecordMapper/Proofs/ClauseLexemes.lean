import RecordMapper.Name
import RecordMapper.Sql.Piece

/-! The text of a WHERE clause cut into lexemes, one character at a time. Nothing here knows how a clause is
made: two texts are cut apart wherever a blank, a bracket, a comma or a point stands between them. -/

namespace RecordMapper.Clause

/-- The dialects whose texts can be read back. -/
inductive Known where
  | mysql
  | sqlite
  | numbered (maxParams : Nat)

namespace Known

def dialect : Known → Dialect
  | .mysql => .mysql
  | .sqlite => .sqlite
  | .numbered maxParams => .numbered maxParams

def opening : Known → Char
  | .mysql => Char.ofNat 96
  | .sqlite => '"'
  | .numbered _ => '['

def closing : Known → Char
  | .mysql => Char.ofNat 96
  | .sqlite => '"'
  | .numbered _ => ']'

/-- Whether a closing mark that is part of a name is written twice. -/
def doubles : Known → Bool
  | .numbered _ => false
  | _ => true

def slotMark : Known → Char
  | .numbered _ => '$'
  | _ => '?'

end Known

inductive Word where
  | and
  | or
  | not
  | between
  | among
  | like
  | is
  | null
  deriving DecidableEq

inductive Lexeme where
  | opening
  | closing
  | comma
  | point
  | name (text : String)
  | word (word : Word)
  | relation (relation : Relation)
  | digit (n : Nat)
  /-- A placeholder as it is written. -/
  | slot (text : String)
  /-- A value in the place of its placeholder. -/
  | value (value : Value)
  | stray (letters : List Char)
  deriving DecidableEq

/-- Runs of plain characters that mean something. -/
def vocabulary : List (String × Lexeme) :=
  [("AND", .word .and), ("OR", .word .or), ("NOT", .word .not), ("BETWEEN", .word .between), ("IN", .word .among),
    ("LIKE", .word .like), ("IS", .word .is), ("NULL", .word .null),
    ("=", .relation .eq), ("<>", .relation .notEq), ("<", .relation .lt), ("<=", .relation .lte),
    (">", .relation .gt), (">=", .relation .gte), ("0", .digit 0), ("1", .digit 1)]

def ofRun (known : Known) (letters : List Char) : Lexeme :=
  if letters.head? = some known.slotMark then .slot (String.ofList letters)
  else (vocabulary.lookup (String.ofList letters)).getD (.stray letters)

/-- What a character means that is never part of a run: nothing for a blank. -/
def punctuation? : Char → Option (List Lexeme)
  | ' ' => some []
  | '(' => some [.opening]
  | ')' => some [.closing]
  | ',' => some [.comma]
  | '.' => some [.point]
  | _ => none

def isPunctuation (c : Char) : Bool := (punctuation? c).isSome

/-- What has been read of a lexeme that is not complete. -/
inductive State where
  | idle
  | run (letters : List Char)
  | name (inside : List Char)
  /-- After a closing mark, which can be the first of two. -/
  | closed (inside : List Char)

variable (known : Known)

def start (c : Char) : List Lexeme × State :=
  match punctuation? c with
  | some lexemes => (lexemes, .idle)
  | none => if c = known.opening then ([], .name []) else ([], .run [c])

def step : State → Char → List Lexeme × State
  | .idle, c => start known c
  | .run letters, c =>
    if isPunctuation c ∨ c = known.opening then (ofRun known letters :: (start known c).1, (start known c).2)
    else ([], .run (letters ++ [c]))
  | .name inside, c => if c = known.closing then ([], .closed inside) else ([], .name (inside ++ [c]))
  | .closed inside, c =>
    if c = known.closing ∧ known.doubles then ([], .name (inside ++ [c]))
    else (.name (String.ofList inside) :: (start known c).1, (start known c).2)

def scan : State → List Char → List Lexeme × State
  | state, [] => ([], state)
  | state, c :: rest =>
    let (found, state) := step known state c
    let (more, last) := scan state rest
    (found ++ more, last)

/-- The lexeme that the end of the text completes, if it does not stand inside a name. -/
def pending? : State → Option (List Lexeme)
  | .idle => some []
  | .run letters => some [ofRun known letters]
  | .name _ => none
  | .closed inside => some [.name (String.ofList inside)]

def lexemes? (text : List Char) : Option (List Lexeme) :=
  let (found, state) := scan known .idle text
  (pending? known state).map (found ++ ·)

variable {known}

theorem scan_append (state : State) (first second : List Char) :
    scan known state (first ++ second) =
      ((scan known state first).1 ++ (scan known (scan known state first).2 second).1,
        (scan known (scan known state first).2 second).2) := by
  induction first generalizing state with
  | nil => rfl
  | cons c rest ih => simp only [List.cons_append, scan, ih, List.append_assoc]

theorem closing_not_punctuation (known : Known) : punctuation? known.closing = none := by
  cases known <;> rfl

theorem step_punctuation {state : State} {pending : List Lexeme} {c : Char} (ends : isPunctuation c)
    (open_ : pending? known state = some pending) :
    step known state c = (pending ++ (start known c).1, (start known c).2) := by
  have different : c ≠ known.closing := by
    rintro rfl
    simp [isPunctuation, closing_not_punctuation] at ends
  cases state with
  | idle =>
    cases open_
    rfl
  | run letters =>
    cases open_
    simp [step, ends]
  | name inside => cases open_
  | closed inside =>
    cases open_
    simp [step, different]

theorem start_punctuation {c : Char} (ends : isPunctuation c) : (start known c).2 = .idle := by
  obtain ⟨lexemes, found⟩ := Option.isSome_iff_exists.mp ends
  simp [start, found]

theorem lexemes_eq_some {text : List Char} {lexemes : List Lexeme} (read : lexemes? known text = some lexemes) :
    ∃ pending, pending? known (scan known .idle text).2 = some pending ∧
      lexemes = (scan known .idle text).1 ++ pending := by
  obtain ⟨pending, complete, rfl⟩ := Option.map_eq_some_iff.mp read
  exact ⟨pending, complete, rfl⟩

theorem scan_settles {text : List Char} {lexemes : List Lexeme} (read : lexemes? known text = some lexemes)
    (ends : text.getLast?.any isPunctuation) : scan known .idle text = (lexemes, .idle) := by
  obtain ⟨pending, complete, rfl⟩ := lexemes_eq_some read
  obtain ⟨c, last, mark⟩ := (Option.any_eq_true _ _).mp ends
  obtain ⟨before, rfl⟩ := List.getLast?_eq_some_iff.mp last
  rw [scan_append] at complete ⊢
  cases open_ : pending? known (scan known .idle before).2 with
  | none =>
    -- A mark inside a name would leave the name open.
    cases state : (scan known .idle before).2 with
    | idle | run _ | closed _ => simp [state, pending?] at open_
    | name inside =>
      have inside : step known (.name inside) c = ([], .name (inside ++ [c])) := by
        have different : c ≠ known.closing := by
          rintro rfl
          simp [isPunctuation, closing_not_punctuation] at mark
        simp [step, different]
      simp [state, scan, inside, pending?] at complete
  | some left =>
    have settled := step_punctuation mark open_
    simp only [scan, settled, start_punctuation mark] at complete ⊢
    cases complete
    simp

/-- Two texts are cut one after the other if a punctuation mark stands between them. -/
theorem lexemes_append {first second : List Char} {before after : List Lexeme}
    (left : lexemes? known first = some before) (right : lexemes? known second = some after)
    (apart : first.getLast?.any isPunctuation ∨ second.head?.all isPunctuation) :
    lexemes? known (first ++ second) = some (before ++ after) := by
  rcases apart with ends | starts
  · obtain ⟨pending, complete, rfl⟩ := lexemes_eq_some right
    simp [lexemes?, scan_append, scan_settles left ends, complete]
  · cases second with
    | nil =>
      cases right
      simpa using left
    | cons c rest =>
      have mark : isPunctuation c := by simpa using starts
      obtain ⟨pending, complete, rfl⟩ := lexemes_eq_some right
      obtain ⟨unfinished, open_, rfl⟩ := lexemes_eq_some left
      have begun : step known .idle c = start known c := rfl
      simp only [scan, begun] at complete
      simp [lexemes?, scan_append, scan, step_punctuation mark open_, begun, complete]

theorem scan_run (letters more : List Char)
    (plain : ∀ c ∈ more, ¬ (isPunctuation c ∨ c = known.opening)) :
    scan known (.run letters) more = ([], .run (letters ++ more)) := by
  induction more generalizing letters with
  | nil => simp [scan]
  | cons c rest ih =>
    have continues : step known (.run letters) c = ([], .run (letters ++ [c])) := if_neg (plain c (by simp))
    simp only [scan, continues, ih (letters ++ [c]) (fun c inside => plain c (by simp [inside]))]
    simp

theorem scan_name (inside more : List Char) (absent : known.closing ∉ more) :
    scan known (.name inside) more = ([], .name (inside ++ more)) := by
  induction more generalizing inside with
  | nil => simp [scan]
  | cons c rest ih =>
    simp only [List.mem_cons, not_or] at absent
    have continues : step known (.name inside) c = ([], .name (inside ++ [c])) := if_neg (Ne.symm absent.1)
    simp only [scan, continues, ih (inside ++ [c]) absent.2]
    simp

theorem lexemes_quoted (name : String) (absent : known.closing ∉ name.toList) :
    lexemes? known (known.opening :: (name.toList ++ [known.closing])) = some [.name name] := by
  have opened : step known .idle known.opening = ([], .name []) := by cases known <;> rfl
  have closes : step known (.name name.toList) known.closing = ([], .closed name.toList) := if_pos rfl
  simp [lexemes?, scan, opened, scan_append, scan_name [] name.toList absent, closes, pending?]

theorem doubled_of_not_mem {mark : Char} {inside : List Char} (absent : mark ∉ inside) :
    Text.doubled mark inside = inside := by
  induction inside with
  | nil => rfl
  | cons c rest ih =>
    simp only [List.mem_cons, not_or] at absent
    simp [Text.doubled, Ne.symm absent.1, ih absent.2]

theorem toList_quote (name : String) (absent : known.closing ∉ name.toList) :
    (known.dialect.quote name).toList = known.opening :: (name.toList ++ [known.closing]) := by
  cases known with
  | mysql | sqlite =>
    have same := doubled_of_not_mem absent
    exact String.toList_ofList.trans (congrArg (fun inside => _ :: (inside ++ [_])) same)
  | numbered maxParams => simp [Known.dialect, Known.opening, Known.closing, Dialect.numbered]

theorem isPart_closing (known : Known) : Name.isPart known.closing = false := by
  cases known <;> rfl

theorem isPart_of_identifier {letters : List Char} (identifier : Name.isIdentifier letters) :
    ∀ c ∈ letters, Name.isPart c := by
  cases letters with
  | nil => nofun
  | cons first rest =>
    simp only [Name.isIdentifier, Bool.and_eq_true, List.all_eq_true] at identifier
    intro c member
    rcases List.mem_cons.mp member with rfl | inside
    · simp [Name.isPart, identifier.1]
    · exact identifier.2 c inside

theorem closing_not_mem {letters : List Char} (identifier : Name.isIdentifier letters) (known : Known) :
    known.closing ∉ letters := by
  intro member
  have part := isPart_of_identifier identifier _ member
  simp [isPart_closing] at part

theorem lexemes_name {name : String} (identifier : Name.isIdentifier name.toList) (known : Known) :
    lexemes? known (known.dialect.quote name).toList = some [.name name] := by
  have absent := closing_not_mem identifier known
  rw [toList_quote name absent]
  exact lexemes_quoted name absent

theorem lexemes_marked (more : List Char) (plain : ∀ c ∈ more, ¬ (isPunctuation c ∨ c = known.opening)) :
    lexemes? known (known.slotMark :: more) = some [.slot (String.ofList (known.slotMark :: more))] := by
  have begun : step known .idle known.slotMark = ([], .run [known.slotMark]) := by cases known <;> rfl
  simp [lexemes?, scan, begun, scan_run _ more plain, pending?, ofRun]

theorem digit_plain {c : Char} (digit : c.isDigit) : ¬ (isPunctuation c ∨ c = '[') := by
  rintro (mark | rfl)
  · unfold isPunctuation punctuation? at mark
    split at mark <;> simp at digit mark
  · simp at digit

theorem placeholder_marked (known : Known) (index : Nat) :
    ∃ more, known.dialect.placeholder index = String.ofList (known.slotMark :: more) ∧
      ∀ c ∈ more, ¬ (isPunctuation c ∨ c = known.opening) := by
  cases known with
  | mysql | sqlite => exact ⟨[], rfl, by simp⟩
  | numbered maxParams =>
    refine ⟨Nat.toDigits 10 index, ?_, fun c member => digit_plain ?_⟩
    · apply String.toList_inj.mp
      simp [Known.dialect, Known.slotMark, Dialect.numbered, Nat.toString_eq_repr]
    · exact Nat.isDigit_of_mem_toDigits (by decide) (by decide) member

theorem lexemes_placeholder (known : Known) (index : Nat) :
    lexemes? known (known.dialect.placeholder index).toList = some [.slot (known.dialect.placeholder index)] := by
  obtain ⟨more, written, plain⟩ := placeholder_marked known index
  rw [written, String.toList_ofList]
  exact lexemes_marked more plain

end RecordMapper.Clause
