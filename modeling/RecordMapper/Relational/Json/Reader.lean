import RecordMapper.Relational.Json.Tree

/-! Reading documents of the wider notation, and telling those that are plain JSON. -/

namespace RecordMapper

namespace JsonTree

/-- Letters to be read, and whether those so far are plain JSON. -/
structure ReadState where
  letters : List Char
  strict : Bool := true

/-- Reading things off the front of letters. It fails with the number of letters that are left where they do not fit. -/
abbrev Read := StateT ReadState (Except Nat)

namespace Read

def letters : Read (List Char) := return (← get).letters

/-- The letters do not go on as they should. -/
def refuse : Read α := do throw (← letters).length

def put (letters : List Char) : Read Unit := modify fun state => { state with letters }

/-- What comes is of the wider notation alone. -/
def widen : Read Unit := modify fun state => { state with strict := false }

/-- Goes on after a letter that has to come. -/
def pass (c : Char) : Read Unit := do
  match ← letters with
  | d :: rest => if c = d then put rest else refuse
  | [] => refuse

/-- Whether a letter comes. -/
def sees (c : Char) : Read Bool := return (← letters).head? = some c

end Read

open Read

def isStrictBlank (c : Char) : Bool := c = ' ' || c = '\t' || c = '\n' || c = '\r'

/-- Blanks that only the wider notation has. -/
def isWideBlank (c : Char) : Bool :=
  let n := c.toNat
  n = 11 || n = 12 || n = 0xA0 || n = 0x1680 || (0x2000 ≤ n && n ≤ 0x200A) || n = 0x2028 || n = 0x2029 || n = 0x202F ||
    n = 0x205F || n = 0x3000 || n = 0xFEFF

/-- What follows the end of a comment. -/
def afterComment? : List Char → Option (List Char)
  | '*' :: '/' :: rest => some rest
  | _ :: rest => afterComment? rest
  | [] => none

/-- Passes blanks and comments, at most `fuel` of them. -/
def skipBlanks : Nat → Read Unit
  | 0 => return
  | fuel + 1 => do
    match ← letters with
    | '/' :: '*' :: rest =>
      match rest.isEmpty, afterComment? rest with
      | false, some after =>
        widen
        put after
        skipBlanks fuel
      | _, _ => return
    | '/' :: '/' :: rest =>
      widen
      put (rest.dropWhile fun c => !Spelled.endsLine c)
      skipBlanks fuel
    | c :: rest =>
      if isStrictBlank c then
        put rest
        skipBlanks fuel
      else if isWideBlank c then
        widen
        put rest
        skipBlanks fuel
      else return
    | [] => return

def skip : Read Unit := do skipBlanks (← letters).length

def isHex (c : Char) : Bool := (Text.hexValue? c).isSome

/-- The letters of a text up to its closing quote, and whether it is of the wider notation. -/
def scanText (quote : Char) (wide : Bool) : List Char → Except Nat (List Char × Bool × List Char)
  | [] => .error 0
  | '\\' :: '\r' :: '\n' :: rest =>
    (scanText quote true rest).map fun (inside, wide, after) => ('\\' :: '\r' :: '\n' :: inside, wide, after)
  | '\\' :: c :: rest =>
    let isUnit := c = 'u' && (Spelled.hexadecimal? 4 rest).isSome
    if (Json.shortEscape? c).isSome || isUnit then
      (scanText quote wide rest).map fun (inside, wide, after) => ('\\' :: c :: inside, wide, after)
    else if c.toNat = 39 || c = '0' || c = 'v' || Spelled.endsLine c ||
        (c = 'x' && (Spelled.hexadecimal? 2 rest).isSome) then
      (scanText quote true rest).map fun (inside, wide, after) => ('\\' :: c :: inside, wide, after)
    else .error (rest.length + 1)
  | c :: rest =>
    if c = quote then .ok ([], wide, rest)
    else if c.toNat = 0 || c = '\\' then .error (rest.length + 1)
    else
      (scanText quote (wide || c.toNat < 32 || c = '"') rest).map fun (inside, wide, after) => (c :: inside, wide, after)

/-- A text after its opening quote. One with control letters or escapes of the wider notation is no plain JSON. -/
def readText (quote : Char) : Read Spelled := do
  match scanText quote false (← letters) with
  | .ok (inside, wide, after) =>
    put after
    if wide || quote ≠ '"' then widen
    return ⟨inside, if wide then .wide else .strict⟩
  | .error left => throw left

def lower (letters : List Char) : List Char := letters.map Char.toLower

def isAlphanumeric (c : Char) : Bool := Numeral.isDigit c || ('a' ≤ c.toLower && c.toLower ≤ 'z')

/-- Words for what is no number, or none that is finite. -/
def wideWords : List (String × JsonTree) :=
  [("inf", .real "9e999".toList), ("infinity", .real "9e999".toList), ("nan", .null), ("qnan", .null), ("snan", .null)]

/-- A value that is a word. -/
def readWord : Read JsonTree := do
  let given ← letters
  let word := given.takeWhile isAlphanumeric
  let rest := given.dropWhile isAlphanumeric
  match String.ofList word, wideWords.find? fun entry => entry.1.toList = lower word with
  | "null", _ =>
    put rest
    return .null
  | "true", _ =>
    put rest
    return .bool true
  | "false", _ =>
    put rest
    return .bool false
  | _, some (_, tree) =>
    widen
    put rest
    return tree
  | _, none => refuse

/-- The letters of a number after its sign, which can go on at more than one place. -/
def readDigits (sign : List Char) : Read JsonTree := do
  let given ← letters
  let before := given.takeWhile Numeral.isDigit
  let rest := given.dropWhile Numeral.isDigit
  let (point, after, rest) : List Char × List Char × List Char := match rest with
    | '.' :: more => (['.'], more.takeWhile Numeral.isDigit, more.dropWhile Numeral.isDigit)
    | _ => ([], [], rest)
  if before.isEmpty && after.isEmpty then refuse
  if !point.isEmpty && (before.isEmpty || after.isEmpty) then widen
  if rest.head? = some '.' then throw rest.length
  let exponent := Numeral.readExponent? rest
  let isRaised := rest.head?.any fun c => c = 'e' || c = 'E'
  if isRaised && exponent.isNone then throw rest.length
  let left := exponent.elim rest fun (_, left) => left
  if exponent.isSome && left.head?.any (fun c => c = 'e' || c = 'E' || c = '.') then throw left.length
  put left
  let written := sign ++ given.take (given.length - left.length)
  return if point.isEmpty && exponent.isNone then .integer written else .real written

/-- A number. -/
def readNumber : Read JsonTree := do
  let (negative, rest) := Numeral.readSign (← letters)
  let signed := rest.length ≠ (← letters).length
  let sign := if negative then ['-'] else []
  if signed && !negative then widen
  put rest
  match rest with
  | '0' :: x :: more =>
    if (x = 'x' || x = 'X') && more.head?.any isHex then
      widen
      put (more.dropWhile isHex)
      return .integer (sign ++ '0' :: x :: more.takeWhile isHex)
    else if Numeral.isDigit x then throw (more.length + 1)
    else readDigits sign
  | _ =>
    let word := lower (rest.take 8)
    if signed && "inf".toList.isPrefixOf word then
      widen
      put (rest.drop (if word = "infinity".toList then 8 else 3))
      return .real (sign ++ "9e999".toList)
    else readDigits sign

/-- A name without quotes; no word for a value is one. -/
def readName : Read Spelled := do
  let isPart (c : Char) : Bool := isAlphanumeric c || c = '_' || c = '$' || (128 ≤ c.toNat && !isWideBlank c)
  let given ← letters
  let name := given.takeWhile isPart
  let isWord := ["null", "true", "false"].contains (String.ofList name) ||
    wideWords.any fun entry => entry.1.toList = lower name
  if given.head?.all Numeral.isDigit || name.isEmpty || isWord then refuse
  widen
  put (given.dropWhile isPart)
  return ⟨name, .strict⟩

/-- Lists and objects that may stand inside one another. -/
def deepest : Nat := 1000

/-- Whether a letter ends what stands before it, so that no value starts with it. -/
def isMark (c : Char) : Bool := c = ',' || c = ':' || c = ']' || c = '\x7d'

mutual
def readValue : Nat → Nat → Read JsonTree
  | 0, _ => refuse
  | fuel + 1, room => do
    let start ← letters
    skip
    match ← letters with
    | [] => throw start.length
    | c :: rest =>
      if isMark c then throw start.length
      else if c = '"' || c.toNat = 39 then
        put rest
        return .text (← readText c)
      else if c = '[' then
        put rest
        match room with
        | 0 => refuse
        | room + 1 => return .list (← readItems fuel room true)
      else if c = '\x7b' then
        put rest
        match room with
        | 0 => refuse
        | room + 1 => return .fields (← readEntries fuel room true)
      else if Numeral.isDigit c || c = '-' || c = '+' || c = '.' then readNumber
      else readWord

/-- Items up to the closing bracket. A comma may stand before that. -/
def readItems : Nat → Nat → Bool → Read (List JsonTree)
  | 0, _, _ => refuse
  | fuel + 1, room, isFirst => do
    skip
    if ← sees ']' then
      if !isFirst then widen
      pass ']'
      return []
    let item ← readValue fuel room
    skip
    if ← sees ',' then
      pass ','
      return item :: (← readItems fuel room false)
    else
      pass ']'
      return [item]

def readEntries : Nat → Nat → Bool → Read (List (Spelled × JsonTree))
  | 0, _, _ => refuse
  | fuel + 1, room, isFirst => do
    skip
    if ← sees '\x7d' then
      if !isFirst then widen
      pass '\x7d'
      return []
    let name ← match ← letters with
      | c :: rest =>
        if c = '"' || c.toNat = 39 then do
          put rest
          readText c
        else readName
      | [] => refuse
    skip
    pass ':'
    let value ← readValue fuel room
    skip
    if ← sees ',' then
      pass ','
      return (name, value) :: (← readEntries fuel room false)
    else
      pass '\x7d'
      return [(name, value)]
end

/-- The document that a text is, and whether it is plain JSON, or else the number of letters left where it is none. -/
def ofText (text : List Char) : Except Nat (JsonTree × Bool) := do
  let reading : Read JsonTree := do
    let tree ← readValue (2 * text.length + 2) deepest
    skip
    if (← letters).isEmpty then return tree else throw text.length
  let (tree, state) ← reading.run { letters := text }
  return (tree, state.strict)

def ofText? (text : List Char) : Option (JsonTree × Bool) := (ofText text).toOption

/-- The place in a text, counted from one, where it is no document; zero if it is one. -/
def faultPlace (text : List Char) : Nat :=
  match ofText text with
  | .ok _ => 0
  | .error left => text.length - left + 1

end JsonTree

end RecordMapper
