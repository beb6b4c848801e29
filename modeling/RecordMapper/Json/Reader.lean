import RecordMapper.Json.Number

/-! Reading JSON text. Entries of an object are kept as written, a name that comes twice included. -/

namespace RecordMapper.Json

def isGap (c : Char) : Bool := c = ' ' || c = '\n' || c = '\t' || c = '\r'

def skipGap (letters : List Char) : List Char := letters.dropWhile isGap

def unit? (a b c d : Char) : Option Nat := do
  return (((← Text.hexValue? a) * 16 + (← Text.hexValue? b)) * 16 + (← Text.hexValue? c)) * 16 + (← Text.hexValue? d)

/-- The character of a one-letter escape. -/
def shortEscape? (c : Char) : Option Char :=
  if c = '"' ∨ c = '\\' ∨ c = '/' then some c
  else if c = 'n' then some '\n'
  else if c = 't' then some '\t'
  else if c = 'r' then some '\r'
  else if c = 'b' then some (Char.ofNat 8)
  else if c = 'f' then some (Char.ofNat 12)
  else none

def isLeading (unit : Nat) : Bool := 0xD800 ≤ unit && unit ≤ 0xDBFF

def isTrailing (unit : Nat) : Bool := 0xDC00 ≤ unit && unit ≤ 0xDFFF

/-- The inside of a string up to its closing quote. A leading surrogate must be followed by a trailing one. -/
def readInside (sofar : List Char) : List Char → Except ReadFault (String × List Char)
  | [] => .error .unexpected
  | '"' :: rest => .ok (String.ofList sofar.reverse, rest)
  | '\\' :: 'u' :: a :: b :: c :: d :: '\\' :: 'u' :: e :: f :: g :: h :: rest =>
    match unit? a b c d with
    | none => .error .unexpected
    | some unit =>
      if isTrailing unit then .error .unexpected
      else if isLeading unit then
        match unit? e f g h with
        | none => .error .unexpected
        | some second =>
          if isTrailing second then
            readInside (Char.ofNat ((unit - 0xD800) * 0x400 + (second - 0xDC00) + 0x10000) :: sofar) rest
          else .error .unexpected
      else readInside (Char.ofNat unit :: sofar) ('\\' :: 'u' :: e :: f :: g :: h :: rest)
  | '\\' :: 'u' :: a :: b :: c :: d :: rest =>
    match unit? a b c d with
    | none => .error .unexpected
    | some unit =>
      if isTrailing unit || isLeading unit then .error .unexpected
      else readInside (Char.ofNat unit :: sofar) rest
  | '\\' :: c :: rest =>
    match shortEscape? c with
    | none => .error .unexpected
    | some plain => readInside (plain :: sofar) rest
  | c :: rest => if c.toNat < 32 ∨ c = '\\' then .error .unexpected else readInside (c :: sofar) rest

/-- Lists and objects that may stand inside one another. -/
def deepest : Nat := 127

mutual
def readValue : Nat → Nat → List Char → Except ReadFault (Json × List Char)
  | 0, _, _ => .error .unexpected
  | fuel + 1, room, letters =>
    match skipGap letters with
    | 'n' :: 'u' :: 'l' :: 'l' :: rest => .ok (.null, rest)
    | 't' :: 'r' :: 'u' :: 'e' :: rest => .ok (.bool true, rest)
    | 'f' :: 'a' :: 'l' :: 's' :: 'e' :: rest => .ok (.bool false, rest)
    | '"' :: rest => (readInside [] rest).map fun (value, after) => (.text value, after)
    | '-' :: rest => readNumber true rest
    | '[' :: rest =>
      match room with
      | 0 => .error .tooDeep
      | room + 1 =>
        match skipGap rest with
        | ']' :: after => .ok (.list [], after)
        | inside => (readItems fuel room inside).map fun (items, after) => (.list items, after)
    | '\x7b' :: rest =>
      match room with
      | 0 => .error .tooDeep
      | room + 1 =>
        match skipGap rest with
        | '\x7d' :: after => .ok (.fields [], after)
        | inside => (readEntries fuel room inside).map fun (entries, after) => (.fields entries, after)
    | rest => readNumber false rest

def readItems : Nat → Nat → List Char → Except ReadFault (List Json × List Char)
  | 0, _, _ => .error .unexpected
  | fuel + 1, room, letters => do
    let (item, rest) ← readValue fuel room letters
    match skipGap rest with
    | ']' :: after => return ([item], after)
    | ',' :: after =>
      let (items, after) ← readItems fuel room after
      return (item :: items, after)
    | _ => throw .unexpected

def readEntries : Nat → Nat → List Char → Except ReadFault (List (String × Json) × List Char)
  | 0, _, _ => .error .unexpected
  | fuel + 1, room, letters => do
    match skipGap letters with
    | '"' :: rest =>
      let (name, rest) ← readInside [] rest
      match skipGap rest with
      | ':' :: rest =>
        let (value, rest) ← readValue fuel room rest
        match skipGap rest with
        | '\x7d' :: after => return ([(name, value)], after)
        | ',' :: after =>
          let (entries, after) ← readEntries fuel room after
          return ((name, value) :: entries, after)
        | _ => throw .unexpected
      | _ => throw .unexpected
    | _ => throw .unexpected
end

/-- The value of a whole text, entries as written. Each call of a reader takes a character or is the first
inside a bracket, so twice the length is fuel enough. -/
def readRaw (text : String) : Except ReadFault Json := do
  let letters := text.toList
  let (value, rest) ← readValue (2 * letters.length + 2) deepest letters
  if (skipGap rest).isEmpty then return value else throw .trailing

/-- The value of a whole text, one entry a name. -/
def read (text : String) : Except ReadFault Json := (readRaw text).map settle

end RecordMapper.Json
