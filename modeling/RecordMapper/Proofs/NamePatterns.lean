import Mathlib.Computability.Language
import RecordMapper.Dialect
import RecordMapper.Proofs.ConditionFormulas

/-! Patterns of names and keys. What is checked one character at a time is a regular language, and the keys in it are the
texts that fall into one or two identifiers at their points, so what is quoted apart has been checked apart. -/

namespace RecordMapper.Name

/-- One character of a class. -/
def single (ofClass : Char → Bool) : Language Char := {letters | ∃ c, ofClass c = true ∧ letters = [c]}

def identifierPattern : Language Char := single isStart * KStar.kstar (single isPart)

/-- An identifier, perhaps with a point and one more behind it. -/
def keyPattern : Language Char := identifierPattern * (1 + single (· = '.') * identifierPattern)

theorem mem_single_mul {ofClass : Char → Bool} {after : Language Char} {letters : List Char} :
    letters ∈ single ofClass * after ↔ ∃ c rest, ofClass c = true ∧ rest ∈ after ∧ letters = c :: rest := by
  rw [Language.mem_mul]
  constructor
  · rintro ⟨_, ⟨c, found, rfl⟩, rest, more, rfl⟩
    exact ⟨c, rest, found, more, rfl⟩
  · rintro ⟨c, rest, found, more, rfl⟩
    exact ⟨[c], ⟨c, found, rfl⟩, rest, more, rfl⟩

theorem mem_many {ofClass : Char → Bool} {letters : List Char} :
    letters ∈ KStar.kstar (single ofClass) ↔ ∀ c ∈ letters, ofClass c = true := by
  rw [Language.mem_kstar]
  constructor
  · rintro ⟨words, rfl, each⟩ c member
    obtain ⟨word, inside, member⟩ := List.mem_flatten.mp member
    obtain ⟨d, found, rfl⟩ := each word inside
    rw [List.mem_singleton.mp member]
    exact found
  · intro all
    refine ⟨letters.map fun c => [c], ?_, ?_⟩
    · rw [← List.flatMap_def, List.flatMap_singleton']
    · intro word inside
      obtain ⟨c, member, rfl⟩ := List.mem_map.mp inside
      exact ⟨c, all c member, rfl⟩

theorem isIdentifier_iff_mem {letters : List Char} : isIdentifier letters = true ↔ letters ∈ identifierPattern := by
  rw [identifierPattern, mem_single_mul]
  simp only [mem_many]
  cases letters with
  | nil => simp [isIdentifier]
  | cons c rest =>
    rw [isIdentifier, Bool.and_eq_true, List.all_eq_true]
    constructor
    · rintro ⟨start, parts⟩
      exact ⟨c, rest, start, parts, rfl⟩
    · rintro ⟨_, _, start, parts, same⟩
      cases same
      exact ⟨start, parts⟩

/-- An identifier, or two around a point. -/
inductive Joined : List Char → Prop where
  | alone {name} (identifier : isIdentifier name = true) : Joined name
  | qualified {qualifier name} (first : isIdentifier qualifier = true) (second : isIdentifier name = true) :
      Joined (qualifier ++ '.' :: name)

theorem joined_iff_mem {letters : List Char} : Joined letters ↔ letters ∈ keyPattern := by
  rw [keyPattern, Language.mem_mul]
  simp only [Language.mem_add, Language.mem_one, mem_single_mul, ← isIdentifier_iff_mem]
  constructor
  · rintro (identifier | ⟨first, second⟩)
    · exact ⟨letters, identifier, [], .inl rfl, List.append_nil letters⟩
    · exact ⟨_, first, _, .inr ⟨'.', _, rfl, second, rfl⟩, rfl⟩
  · rintro ⟨before, first, after, rfl | ⟨c, name, point, second, rfl⟩, rfl⟩
    · rw [List.append_nil]
      exact .alone first
    · rw [of_decide_eq_true point]
      exact .qualified first second

theorem isKey_iff_joined {letters : List Char} : isKey letters = true ↔ Joined letters := by
  constructor
  · intro key
    have whole : letters.takeWhile isPart ++ letters.dropWhile isPart = letters := List.takeWhile_append_dropWhile
    rw [isKey, Bool.and_eq_true] at key
    obtain ⟨first, second⟩ := key
    rw [← whole]
    generalize letters.dropWhile isPart = after at second
    cases after with
    | nil =>
      rw [List.append_nil]
      exact .alone first
    | cons c name =>
      rw [Bool.and_eq_true] at second
      rw [of_decide_eq_true second.1]
      exact .qualified first second.2
  · intro joined
    cases joined with
    | alone identifier =>
      have parts := Clause.isPart_of_identifier identifier
      rw [← List.append_nil letters, isKey, List.takeWhile_append_of_pos parts, List.dropWhile_append_of_pos parts]
      simpa using identifier
    | @qualified qualifier name first second =>
      have parts := Clause.isPart_of_identifier first
      have point : ¬ isPart '.' = true := by decide
      rw [isKey, List.takeWhile_append_of_pos parts, List.dropWhile_append_of_pos parts,
        List.takeWhile_cons_of_neg point, List.dropWhile_cons_of_neg point]
      simp [first, second]

theorem joined_iff_splitOn {letters : List Char} :
    Joined letters ↔ ((letters.splitOn '.').length = 1 ∨ (letters.splitOn '.').length = 2) ∧
      ∀ part ∈ letters.splitOn '.', isIdentifier part = true := by
  constructor
  · intro joined
    cases joined with
    | alone identifier =>
      rw [Clause.splitOn_part (Clause.isPart_of_identifier identifier)]
      exact ⟨.inl rfl, List.forall_mem_singleton.mpr identifier⟩
    | @qualified qualifier name first second =>
      rw [List.splitOn_append_cons_self, Clause.splitOn_part (Clause.isPart_of_identifier first),
        Clause.splitOn_part (Clause.isPart_of_identifier second)]
      exact ⟨.inr rfl, by simp [first, second]⟩
  · rintro ⟨few, identifiers⟩
    have whole : ['.'].intercalate (letters.splitOn '.') = letters := List.intercalate_splitOn '.'
    rw [← whole]
    rcases few with few | few
    · obtain ⟨name, only⟩ := List.length_eq_one_iff.mp few
      rw [only] at identifiers ⊢
      simpa using Joined.alone (identifiers name (by simp))
    · obtain ⟨qualifier, name, both⟩ := List.length_eq_two.mp few
      rw [both] at identifiers ⊢
      simpa using Joined.qualified (identifiers qualifier (by simp)) (identifiers name (by simp))

theorem checkKey_eq_ok {key : String} : checkKey key = .ok () ↔ Joined key.toList := by
  rw [← isKey_iff_joined, checkKey]
  split
  next empty =>
    rw [String.isEmpty_iff.mp empty]
    exact iff_of_false nofun nofun
  next =>
    split
    next key => exact iff_of_true rfl key
    next other => exact iff_of_false nofun other

theorem isStart_bounds {c : Char} :
    isStart c = true ↔ (65 ≤ c.toNat ∧ c.toNat ≤ 90) ∨ (97 ≤ c.toNat ∧ c.toNat ≤ 122) ∨ c.toNat = 95 := by
  have underscore : c = '_' ↔ c.toNat = 95 := ⟨fun same => by rw [same]; rfl, fun same => Char.toNat_inj.mp same⟩
  simp only [isStart, Bool.or_eq_true, Bool.and_eq_true, decide_eq_true_eq, Char.le_def, UInt32.le_iff_toNat_le, or_assoc,
    underscore]
  rfl

theorem isDigit_bounds {c : Char} : c.isDigit = true ↔ 48 ≤ c.toNat ∧ c.toNat ≤ 57 := by
  simp only [Char.isDigit, Bool.and_eq_true, decide_eq_true_eq, ge_iff_le, UInt32.le_iff_toNat_le]
  rfl

theorem isStart_iff {c : Char} : isStart c = true ↔ c.isAlpha = true ∨ c = '_' := by
  have letter : c.isAlpha = (decide ('A' ≤ c ∧ c ≤ 'Z') || ('a' ≤ c && c ≤ 'z')) := rfl
  rw [letter, Bool.decide_and, isStart, Bool.or_eq_true _ (decide (c = '_')), decide_eq_true_eq]

theorem isPart_iff {c : Char} : isPart c = true ↔ isStart c = true ∨ c.isDigit = true := by
  simp [isPart, Char.isDigit, Char.le_def]

theorem isDigit_of_isStart {c : Char} (start : isStart c = true) : c.isDigit = false := by
  by_contra digit
  have bounds := isDigit_bounds.mp (Bool.not_eq_false _ ▸ digit)
  rcases isStart_bounds.mp start with upper | lower | underscore <;> omega

theorem ascii_of_isPart {c : Char} (part : isPart c = true) : c.toNat < 128 := by
  rcases isPart_iff.mp part with start | digit
  · rcases isStart_bounds.mp start with upper | lower | underscore <;> omega
  · have bounds := isDigit_bounds.mp digit
    omega

theorem isIdentifier_iff {letters : List Char} :
    isIdentifier letters = true ↔ letters ≠ [] ∧ (∀ c ∈ letters, c.isAlphanum = true ∨ c = '_') ∧
      ∀ first, letters.head? = some first → first.isDigit = false := by
  have part (c : Char) : c.isAlphanum = true ∨ c = '_' ↔ isPart c = true := by
    rw [isPart_iff, isStart_iff, Char.isAlphanum, Bool.or_eq_true, or_right_comm]
  simp only [part]
  cases letters with
  | nil => simp [isIdentifier]
  | cons c rest =>
    rw [isIdentifier, Bool.and_eq_true, List.all_eq_true, List.forall_mem_cons]
    constructor
    · rintro ⟨start, parts⟩
      refine ⟨List.cons_ne_nil c rest, ⟨isPart_iff.mpr (.inl start), parts⟩, ?_⟩
      rintro _ ⟨⟩
      exact isDigit_of_isStart start
    · rintro ⟨_, ⟨first, parts⟩, noDigit⟩
      refine ⟨(isPart_iff.mp first).resolve_right ?_, parts⟩
      rw [noDigit c rfl]
      exact Bool.false_ne_true

/-- What is quoted for an accepted key: an identifier, or two around a point. -/
theorem quoteKey_of_joined (dialect : Dialect) {key : String} (joined : Joined key.toList) :
    (check key = .ok () ∧ dialect.quoteKey key = dialect.quote key) ∨
      ∃ qualifier name, check qualifier = .ok () ∧ check name = .ok () ∧ key = qualifier ++ "." ++ name ∧
        dialect.quoteKey key = dialect.quote qualifier ++ "." ++ dialect.quote name := by
  simp only [check_eq_ok, Dialect.quoteKey]
  generalize letters : key.toList = found at joined
  cases joined with
  | alone identifier =>
    subst letters
    left
    rw [Clause.splitOn_part (Clause.isPart_of_identifier identifier)]
    exact ⟨identifier, by simp⟩
  | @qualified qualifier name first second =>
    right
    refine ⟨String.ofList qualifier, String.ofList name, by simpa using first, by simpa using second, ?_, ?_⟩
    · apply String.toList_inj.mp
      simp [letters]
    · rw [List.splitOn_append_cons_self, Clause.splitOn_part (Clause.isPart_of_identifier first),
        Clause.splitOn_part (Clause.isPart_of_identifier second)]
      simp [String.intercalate_cons_cons]

/-- A key is accepted exactly if the one or two parts between its points are accepted as names, and these are what is
quoted of it. A name is accepted exactly if it is made of ASCII letters, digits and underscores and does not start with a
digit. Both are the languages of their patterns. -/
theorem keys_split_into_names :
    (∀ key : String, (checkKey key = .ok () ↔ key.toList ∈ keyPattern) ∧
      (checkKey key = .ok () ↔
        ((key.toList.splitOn '.').length = 1 ∨ (key.toList.splitOn '.').length = 2) ∧
          ∀ part ∈ key.toList.splitOn '.', check (String.ofList part) = .ok ())) ∧
    (∀ (dialect : Dialect) (key : String), checkKey key = .ok () →
      (check key = .ok () ∧ dialect.quoteKey key = dialect.quote key) ∨
        ∃ qualifier name, check qualifier = .ok () ∧ check name = .ok () ∧ key = qualifier ++ "." ++ name ∧
          dialect.quoteKey key = dialect.quote qualifier ++ "." ++ dialect.quote name) ∧
    (∀ name : String, (check name = .ok () ↔ name.toList ∈ identifierPattern) ∧
      (check name = .ok () ↔
        name ≠ "" ∧ (∀ c ∈ name.toList, c.isAlphanum = true ∨ c = '_') ∧
          ∀ first, name.toList.head? = some first → first.isDigit = false)) ∧
    ∀ name : String, (name.toList.getLast? = some '\n' ∨ ∃ c ∈ name.toList, 128 ≤ c.toNat) → check name ≠ .ok () := by
  refine ⟨fun key => ⟨?_, ?_⟩, fun dialect key accepted => ?_, fun name => ⟨?_, ?_⟩, ?_⟩
  · rw [checkKey_eq_ok, joined_iff_mem]
  · simp only [checkKey_eq_ok, joined_iff_splitOn, check_eq_ok, String.toList_ofList]
  · exact quoteKey_of_joined dialect (checkKey_eq_ok.mp accepted)
  · rw [check_eq_ok, isIdentifier_iff_mem]
  · rw [check_eq_ok, isIdentifier_iff, ne_eq, String.toList_eq_nil_iff]
  · intro name outside accepted
    have parts := Clause.isPart_of_identifier (check_eq_ok.mp accepted)
    rcases outside with newline | ⟨c, member, beyond⟩
    · exact absurd (parts '\n' (List.mem_of_getLast? newline)) (by decide)
    · have ascii := ascii_of_isPart (parts c member)
      omega

/-- A key with an alias is accepted and quoted in two parts; a column with a line break behind it is refused. -/
theorem aliased_key_accepted :
    checkKey "a.id" = .ok () ∧
      (∃ qualifier name, check qualifier = .ok () ∧ check name = .ok () ∧ "a.id" = qualifier ++ "." ++ name ∧
        Dialect.sqlite.quoteKey "a.id" = Dialect.sqlite.quote qualifier ++ "." ++ Dialect.sqlite.quote name) ∧
      check "id\n" ≠ .ok () := by
  obtain ⟨keys, quoted, _, refused⟩ := keys_split_into_names
  have accepted : checkKey "a.id" = .ok () := (keys "a.id").2.mpr ⟨.inr rfl, by decide⟩
  refine ⟨accepted, ?_, refused "id\n" (.inl rfl)⟩
  rcases quoted .sqlite "a.id" accepted with ⟨alone, _⟩ | parts
  · cases alone
  · exact parts

end RecordMapper.Name
