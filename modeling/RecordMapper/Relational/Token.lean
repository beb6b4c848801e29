import RecordMapper.Relational.Datum.Number
import RecordMapper.Relational.Fault
import RecordMapper.Text.Quoted

/-! Tokens of SQL text, and reading small things off their front. -/

namespace RecordMapper

inductive Token where
  /-- A keyword or a name without quotes. -/
  | word (text : String)
  /-- A name in double quotes, which is a text where no such name is known. -/
  | quoted (name : String)
  /-- A name in brackets or backward quotes, with the text that it is written as. -/
  | bracketed (name source : String)
  | string (text : String)
  /-- A number or an octet sequence, with the text that it is written as. -/
  | datum (datum : Datum) (source : String)
  /-- A placeholder, with its number if it has one. -/
  | variable (number : Option Nat) (source : String)
  | mark (text : String)
  /-- What is no token. -/
  | unknown (source : String)
  deriving DecidableEq

namespace Token

def isNameStart (c : Char) : Bool := ('A' ≤ c && c ≤ 'Z') || ('a' ≤ c && c ≤ 'z') || c = '_' || 128 ≤ c.toNat

def isNamePart (c : Char) : Bool := isNameStart c || Numeral.isDigit c || c = '$'

/-- Digits at the front, and the rest. An underscore may stand between two digits. -/
def digitRun (good : Char → Bool) : List Char → List Char × List Char
  | [] => ([], [])
  | [c] => if good c then ([c], []) else ([], [c])
  | c :: d :: rest =>
    if good c then
      let (more, after) := digitRun good (d :: rest)
      (c :: more, after)
    else if c = '_' && good d then digitRun good (d :: rest)
    else ([], c :: d :: rest)

/-- The digits of a number, if it starts with one. -/
def digits (good : Char → Bool) (letters : List Char) : List Char × List Char :=
  if letters.head?.any good then digitRun good letters else ([], letters)

/-- The number of hexadecimal digits: sixteen of them are the bits of an integer. -/
def hexNumber? (run : List Char) : Option Datum :=
  let n := run.foldl (fun n c => n * 16 + (Text.hexValue? c).getD 0) 0
  if run.isEmpty then none
  else if n < 2 * Word.signedBound then some (.int (UInt64.ofNat n).toInt64) else none

/-- A number at the front. -/
def readNumber (letters : List Char) : Option (Datum × List Char) :=
  let isHex (c : Char) : Bool := (Text.hexValue? c).isSome
  match letters with
  | '0' :: x :: rest =>
    if (x = 'x' ∨ x = 'X') ∧ rest.head?.any isHex then
      (hexNumber? (digits isHex rest).1).map fun n => (n, (digits isHex rest).2)
    else some (decimal ('0' :: x :: rest))
  | _ => some (decimal letters)
where
  /-- Digits with a point and an exponent, both of which may be missing. -/
  decimal (letters : List Char) : Datum × List Char :=
    let (before, rest) := digits Numeral.isDigit letters
    let (point, after, rest) : List Char × List Char × List Char := match rest with
      | '.' :: more => (['.'], digits Numeral.isDigit more)
      | _ => ([], [], rest)
    let exponent := Numeral.readExponent? rest
    let raised := (rest.take (rest.length - (exponent.elim rest fun (_, left) => left).length))
    ((Numeral.read (before ++ point ++ after ++ raised)).datum, exponent.elim rest fun (_, left) => left)

/-- Marks of several letters, the longer ones first. -/
def longMarks : List String := ["->>", "->", "<=", ">=", "<>", "!=", "==", "||", "<<", ">>"]

def singles : List Char := ['(', ')', ',', '.', '=', '<', '>', '*', ';', '-', '+', '/', '%', '&', '|', '~']

/-- What follows a comment that runs up to a star and a slash, or to the end. -/
def afterComment : List Char → List Char
  | '*' :: '/' :: rest => rest
  | _ :: rest => afterComment rest
  | [] => []

/-- The octets of hexadecimal digits between quotes. -/
def readOctets (inside : List Char) : Option (List UInt8) :=
  match inside with
  | [] => some []
  | c :: d :: rest => do
    let high ← Text.hexValue? c
    let low ← Text.hexValue? d
    return UInt8.ofNat (high * 16 + low) :: (← readOctets rest)
  | [_] => none

/-- A token of what stands in quotes at the front; quotes that never close are no token. -/
def readQuoted (mark : Char) (make : String → Token) (letters : List Char) : Token × List Char :=
  match Text.scan mark letters with
  | some (inside, after) => (make (String.ofList inside), after)
  | none => (.unknown (String.ofList letters), [])

/-- The letters that make a token of all up to the given rest. -/
def taken (letters rest : List Char) : String := String.ofList (letters.take (letters.length - rest.length))

/-- An octet sequence after the letter for it. -/
def readBlob (letters : List Char) : Token × List Char :=
  let inside := (letters.drop 2).takeWhile fun c => c.toNat ≠ 39
  let rest := (letters.drop (2 + inside.length)).tail
  match readOctets inside with
  | some octets =>
    if (letters.drop (2 + inside.length)).isEmpty then (.unknown (String.ofList letters), [])
    else (.datum (.blob octets) (taken letters rest), rest)
  | none => (.unknown (taken letters rest), rest)

/-- A number with the letters that follow it; a name must not follow directly. -/
def readNumeric (letters : List Char) : Token × List Char :=
  match readNumber letters with
  | some (number, after) =>
    if after.head?.any isNamePart then
      (.unknown (taken letters (after.dropWhile isNamePart)), after.dropWhile isNamePart)
    else (.datum number (taken letters after), after)
  | none =>
    let after := letters.dropWhile isNamePart
    (.unknown (taken letters after), after)

/-- A placeholder, which may have a number. -/
def readVariable (letters : List Char) : Token × List Char :=
  let digits := letters.tail.takeWhile Numeral.isDigit
  let rest := letters.tail.dropWhile Numeral.isDigit
  (.variable (if digits.isEmpty then none else some (Numeral.value digits)) (taken letters rest), rest)

/-- The token at the front of letters that start with no blank and no comment. -/
def readOne (letters : List Char) : Token × List Char :=
  match letters with
  | [] => (.unknown "", [])
  | c :: rest =>
    if c.toNat = 39 then readQuoted c .string letters
    else if c = '"' then readQuoted c .quoted letters
    else if c.toNat = 96 then
      match readQuoted c .string letters with
      | (.string name, after) => (.bracketed name (taken letters after), after)
      | other => other
    else if c = '[' then
      if rest.contains ']' then
        let after := (rest.dropWhile (· ≠ ']')).tail
        (.bracketed (String.ofList (rest.takeWhile (· ≠ ']'))) (taken letters after), after)
      else (.unknown (String.ofList letters), [])
    else if (c = 'x' ∨ c = 'X') ∧ rest.head?.any (·.toNat = 39) then readBlob letters
    else if Numeral.isDigit c || (c = '.' && rest.head?.any Numeral.isDigit) then readNumeric letters
    else if isNameStart c then
      (.word (String.ofList (letters.takeWhile isNamePart)), letters.dropWhile isNamePart)
    else if c = '?' then readVariable letters
    else
      match longMarks.find? fun long => long.toList.isPrefixOf letters with
      | some long => (.mark long, letters.drop long.length)
      | none => (if singles.contains c then .mark (String.singleton c) else .unknown (String.singleton c), rest)

/-- Tokens of letters, at most `fuel` of them. -/
def read : Nat → List Char → List Token
  | 0, _ | _, [] => []
  | fuel + 1, c :: rest =>
    if Numeral.isBlank c && c.toNat ≠ 11 || c.toNat = 0xFEFF then read fuel rest
    else if c = '-' ∧ rest.head? = some '-' then read fuel (rest.dropWhile (· ≠ '\n'))
    else if c = '/' ∧ rest.head? = some '*' then read fuel (afterComment rest.tail)
    else
      let (token, after) := readOne (c :: rest)
      token :: read fuel after

/-- Every token takes a letter, so the length is fuel enough. A text ends before its first NUL. -/
def ofText (text : String) : List Token :=
  let letters := text.toList.takeWhile fun c => c.toNat ≠ 0
  read letters.length letters

/-- The text that a token is written as. -/
def source : Token → String
  | .word text | .mark text => text
  | .quoted name => Text.enclose '"' name
  | .string text => Text.enclose (Char.ofNat 39) text
  | .bracketed _ source | .datum _ source | .variable _ source | .unknown source => source

/-! Placeholders are numbered within their statement: one that has a number of its own keeps it, and every other gets
the one after the greatest so far. The values for those without numbers are counted through all statements. -/

/-- The greatest number of a placeholder. -/
def greatestVariable : Nat := 32766

/-- The numbers of the placeholders in order, with whether they are their own; `used` is the greatest so far. -/
def numbered (used : Nat) : List Token → List (Nat × Bool)
  | [] => []
  | .variable (some n) _ :: rest => (n, true) :: numbered (max used n) rest
  | .variable none _ :: rest => (used + 1, false) :: numbered (used + 1) rest
  | _ :: rest => numbered used rest

/-- The place among all values of the value for each placeholder up to `count`; `named` have places of their own. -/
def placesFor (named : List Nat) (start count : Nat) : List (Nat × Nat) :=
  ((List.range count).foldl (fun (found, next) i =>
    if named.contains (i + 1) then ((i + 1, i) :: found, next) else ((i + 1, next) :: found, next + 1))
    (([] : List (Nat × Nat)), start)).1

/-- Puts values where placeholders stand; one that is missing is NULL. -/
def fill (values : List Datum) (places : List (Nat × Nat)) : List (Nat × Bool) → List Token → List Token
  | (number, _) :: numbers, .variable _ source :: rest =>
    let place := (places.find? fun entry => entry.1 = number).map Prod.snd
    .datum ((place.bind fun place => values[place]?).getD .null) source :: fill values places numbers rest
  | numbers, token :: rest => token :: fill values places numbers rest
  | _, [] => []

/-- A statement's tokens with values in place of its placeholders, and the number of values used up so far. -/
def bound (values : List Datum) (start : Nat) (tokens : List Token) : List Token × Nat :=
  let numbers := numbered 0 tokens
  let named := (numbers.filter Prod.snd).map Prod.fst
  let count := (numbers.map Prod.fst).foldl max 0
  if greatestVariable < count || named.contains 0 then (tokens, start)
  else
    let plain := (List.range count).filter fun i => !named.contains (i + 1)
    (fill values (placesFor named start count) numbers tokens, start + plain.length)

/-- A word in capitals. -/
def capitals (text : String) : String := String.ofList (text.toList.map Char.toUpper)

/-- Whether a token is the given keyword, in either case. -/
def isKeyword (keyword : String) : Token → Bool
  | .word text => capitals text = keyword
  | _ => false

/-- Whether the keyword comes first. -/
def starts (keyword : String) (tokens : List Token) : Bool := tokens.head?.any (isKeyword keyword)

/-- What follows a keyword. -/
def afterKeyword? (keyword : String) : List Token → Option (List Token)
  | token :: rest => if token.isKeyword keyword then some rest else none
  | [] => none

/-- What follows keywords in a row. -/
def afterKeywords? : List String → List Token → Option (List Token)
  | [], tokens => some tokens
  | keyword :: more, tokens => (afterKeyword? keyword tokens).bind (afterKeywords? more)

/-- Words that are never names. -/
def keywords : List String :=
  ["ADD", "ALL", "ALTER", "AND", "AS", "AUTOINCREMENT", "BETWEEN", "CASE", "CHECK", "COLLATE", "COMMIT", "CONSTRAINT",
   "CREATE", "DEFAULT", "DEFERRABLE", "DELETE", "DISTINCT", "DROP", "ELSE", "ESCAPE", "EXISTS", "FOREIGN", "FROM",
   "GROUP", "HAVING", "IN", "INDEX", "INSERT", "INTO", "IS", "ISNULL", "JOIN", "LIMIT", "NOT", "NOTHING", "NOTNULL",
   "NULL", "ON", "OR", "ORDER", "PRIMARY", "REFERENCES", "RETURNING", "SELECT", "SET", "TABLE", "THEN", "TO",
   "TRANSACTION", "UNION", "UNIQUE", "UPDATE", "USING", "VALUES", "WHEN", "WHERE", "EXCEPT", "INTERSECT"]

/-- Words that are a kind of join before they are names. -/
def joinWords : List String := ["CROSS", "FULL", "INNER", "LEFT", "NATURAL", "OUTER", "RIGHT"]

/-- A name, quoted or not. -/
def name? : List Token → Option (String × List Token)
  | .quoted name :: rest | .bracketed name _ :: rest => some (name, rest)
  | .word text :: rest => if keywords.contains (capitals text) then none else some (text, rest)
  | _ => none

/-- A name where a text in quotes may be one too. -/
def nameOrString? : List Token → Option (String × List Token)
  | .string text :: rest => some (text, rest)
  | tokens => name? tokens

/-- A name that follows what it names without a keyword between. `WINDOW` starts a clause where a name and `AS`
follow it. -/
def bareAlias? : List Token → Option (String × List Token)
  | .word text :: rest =>
    if keywords.contains (capitals text) || joinWords.contains (capitals text) then none
    else if capitals text = "WINDOW" && ((name? rest).any fun (_, after) => starts "AS" after) then none
    else some (text, rest)
  | tokens => nameOrString? tokens

end Token

/-- Why tokens are not read. -/
inductive ReadFault where
  /-- The first of the tokens does not fit where it stands, or there is none where one is needed. -/
  | near (tokens : List Token)
  | other (fault : Fault)

/-- Reading things off the front of tokens. -/
abbrev Reading := StateT (List Token) (Except ReadFault)

namespace ReadFault

def fault : ReadFault → Fault
  | .near [] => "incomplete input"
  | .near (.unknown source :: _) => "unrecognized token: \"" ++ source ++ "\""
  | .near (.variable _ source :: _) =>
    if source.length ≤ 1 then "near \"" ++ source ++ "\": syntax error"
    else "variable number must be between ?1 and ?" ++ toString Token.greatestVariable
  | .near (token :: _) => "near \"" ++ token.source ++ "\": syntax error"
  | .other fault => fault

end ReadFault

namespace Reading

/-- The tokens do not go on as they should. -/
def refuse : Reading α := do throw (.near (← get))

/-- Fails for a reason that is no matter of tokens. -/
def fail (fault : Fault) : Reading α := throw (.other fault)

def skip : Reading Unit := modify List.tail

/-- Whether a keyword comes next. -/
def sees (keyword : String) : Reading Bool := return Token.starts keyword (← get)

/-- Passes a keyword if it comes next, and tells whether it does. -/
def pass (keyword : String) : Reading Bool := do
  if ← sees keyword then
    skip
    return true
  else return false

/-- Passes keywords if all of them come next in a row, and tells whether they do. -/
def passAll (keywords : List String) : Reading Bool := do
  match Token.afterKeywords? keywords (← get) with
  | some rest =>
    set rest
    return true
  | none => return false

/-- Passes a keyword that has to come. -/
def expect (keyword : String) : Reading Unit := do if !(← pass keyword) then refuse

/-- Whether a mark comes next. -/
def seesMark (text : String) : Reading Bool := return (← get).head? = some (.mark text)

def passMark (text : String) : Reading Bool := do
  if ← seesMark text then
    skip
    return true
  else return false

def expectMark (text : String) : Reading Unit := do if !(← passMark text) then refuse

/-- Takes what a function finds at the front, which has to be there. -/
def take (find : List Token → Option (α × List Token)) : Reading α := do
  match find (← get) with
  | some (found, rest) =>
    set rest
    return found
  | none => refuse

/-- Takes what a function finds at the front, if it does. -/
def take? (find : List Token → Option (α × List Token)) : Reading (Option α) := do
  match find (← get) with
  | some (found, rest) =>
    set rest
    return some found
  | none => return none

def name : Reading String := take Token.name?

def nameOrString : Reading String := take Token.nameOrString?

/-- An alias, with or without a keyword before it. -/
def aliasName : Reading (Option String) := do
  if ← pass "AS" then return some (← nameOrString) else take? Token.bareAlias?

/-- Items with commas between, as long as there are any, at most `fuel` of them; `done` are those so far, the last one
first. -/
def list (item : Reading α) : Nat → List α → Reading (List α)
  | 0, _ => refuse
  | fuel + 1, done => do
    let next ← item
    if ← passMark "," then list item fuel (next :: done) else return (next :: done).reverse

/-- Items with commas between. Every item takes a token. -/
def items (item : Reading α) : Reading (List α) := do list item ((← get).length + 1) []

/-- A list in brackets. -/
def bracketed (item : Reading α) : Reading (List α) := do
  expectMark "("
  let found ← items item
  expectMark ")"
  return found

/-- What follows keywords, if the first of them comes next. -/
def after (opening : List String) (item : Reading α) : Reading (Option α) := do
  if ← sees (opening.headD "") then
    opening.forM expect
    return some (← item)
  else return none

/-- Items that follow keywords; none if the first of these does not come next. -/
def listAfter (opening : List String) (item : Reading α) : Reading (List α) := do
  return (← after opening (items item)).getD []

/-- Reads all of some tokens. -/
def all (item : Reading α) (tokens : List Token) : Except ReadFault α := do
  match ← item.run tokens with
  | (found, []) => return found
  | (_, rest) => throw (.near rest)

end Reading

end RecordMapper
