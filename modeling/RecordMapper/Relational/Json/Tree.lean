import RecordMapper.Json.Printer
import RecordMapper.Json.Reader
import RecordMapper.Relational.Datum.Number

/-! Documents that SQL works with. Numbers and texts stay as they are written, and the notation is wider than that of
plain JSON: texts in single quotes, names without quotes, comments, numbers in base sixteen and without digits before or
after the point. -/

namespace RecordMapper

/-- How the letters of a text are to be read. -/
inductive Spelling where
  /-- As JSON has them between quotes. -/
  | strict
  /-- With what only the wider notation has between quotes. -/
  | wide
  /-- As they are. -/
  | plain
  deriving DecidableEq

/-- A text as it is written. -/
structure Spelled where
  letters : List Char
  spelling : Spelling

inductive JsonTree where
  | null
  | bool (value : Bool)
  /-- An integer with its sign, which the wider notation can have in base sixteen. -/
  | integer (letters : List Char)
  /-- A number with a point or an exponent; digits may be missing beside the point. -/
  | real (letters : List Char)
  | text (text : Spelled)
  | list (items : List JsonTree)
  | fields (entries : List (Spelled × JsonTree))

namespace Spelled

/-- A character by its number; half a pair of surrogates becomes a replacement character. -/
def character (n : Nat) : Char := if n.isValidChar then Char.ofNat n else Text.replacementChar

/-- The number of hexadecimal digits, all of which have to be there. -/
def hexadecimal? (count : Nat) (letters : List Char) : Option Nat :=
  if letters.length < count then none
  else (letters.take count).foldlM (fun n c => (Text.hexValue? c).map fun digit => n * 16 + digit) 0

/-- Whether a line ends with the character. -/
def endsLine (c : Char) : Bool := c = '\n' || c = '\r' || c.toNat = 0x2028 || c.toNat = 0x2029

/-- What a letter after a backslash stands for. -/
def escaped (c : Char) : Char :=
  if c = 'v' then Char.ofNat 11 else if c = '0' then Char.ofNat 0 else (Json.shortEscape? c).getD c

/-- The characters of a text between quotes, at most `fuel` of them. A backslash before the end of a line lets the line
go on. -/
def unescape : Nat → List Char → List Char
  | 0, _ | _, [] => []
  | fuel + 1, '\\' :: 'u' :: rest =>
    match hexadecimal? 4 rest, rest.drop 4 with
    | none, _ => unescape fuel rest
    | some unit, '\\' :: 'u' :: more =>
      match Json.isLeading unit, (hexadecimal? 4 more).filter Json.isTrailing with
      | true, some second =>
        character ((unit - 0xD800) * 0x400 + (second - 0xDC00) + 0x10000) :: unescape fuel (more.drop 4)
      | _, _ => character unit :: unescape fuel ('\\' :: 'u' :: more)
    | some unit, more => character unit :: unescape fuel more
  | fuel + 1, '\\' :: 'x' :: rest => character ((hexadecimal? 2 rest).getD 0) :: unescape fuel (rest.drop 2)
  | fuel + 1, '\\' :: '\r' :: '\n' :: rest => unescape fuel rest
  | fuel + 1, '\\' :: c :: rest => if endsLine c then unescape fuel rest else escaped c :: unescape fuel rest
  | fuel + 1, c :: rest => c :: unescape fuel rest

/-- The characters of a text. -/
def characters (text : Spelled) : List Char :=
  if text.spelling = .plain then text.letters else unescape text.letters.length text.letters

/-- Letters of the wider notation as JSON has them. -/
def narrowed : List Char → List Char
  | [] => []
  | '\\' :: '\r' :: '\n' :: rest => narrowed rest
  | '\\' :: c :: rest =>
    if endsLine c then narrowed rest
    else if c.toNat = 39 then c :: narrowed rest
    else if c = 'v' then "\\u000b".toList ++ narrowed rest
    else if c = 'x' then "\\u00".toList ++ narrowed rest
    else if c = '0' then "\\u0000".toList ++ narrowed rest
    else '\\' :: c :: narrowed rest
  | c :: rest => (if c = '"' || c.toNat < 32 then Json.escape c else [c]) ++ narrowed rest

/-- A text between double quotes. -/
def written (text : Spelled) : List Char :=
  let inside := match text.spelling with
    | .strict => text.letters
    | .wide => narrowed text.letters
    | .plain => text.letters.flatMap Json.escape
  '"' :: (inside ++ ['"'])

end Spelled

namespace JsonTree

/-- The digits of an integer in base sixteen, with whether it is negative. -/
def hexDigits? (letters : List Char) : Option (Bool × List Char) :=
  match Numeral.readSign letters with
  | (negative, '0' :: x :: digits) => if x = 'x' ∨ x = 'X' then some (negative, digits) else none
  | _ => none

def hexValue (digits : List Char) : Nat := digits.foldl (fun n c => n * 16 + (Text.hexValue? c).getD 0) 0

/-- The number of values of 64 bits. -/
def wordBound : Nat := 2 * Word.signedBound

/-- An integer in base ten. -/
def writtenInteger (letters : List Char) : List Char :=
  match hexDigits? letters with
  | none => letters
  | some (negative, digits) =>
    let n := hexValue digits
    (if negative then ['-'] else []) ++ if n < wordBound then Nat.toDigits 10 n else "9.0e999".toList

/-- A number with a zero on each side of its point where no digit is; `prior` tells whether one stands before. -/
def completed (prior : Bool) : List Char → List Char
  | [] => []
  | '.' :: rest =>
    (if prior then ['.'] else ['0', '.']) ++ ((if rest.head?.any Numeral.isDigit then [] else ['0']) ++
      completed false rest)
  | c :: rest => c :: completed (Numeral.isDigit c) rest

mutual
/-- The text of a document without blanks. -/
def written : JsonTree → List Char
  | .null => "null".toList
  | .bool value => (if value then "true" else "false").toList
  | .integer letters => writtenInteger letters
  | .real letters => completed false letters
  | .text spelled => spelled.written
  | .list items => '[' :: (writtenItems items ++ [']'])
  | .fields entries => '\x7b' :: (writtenEntries entries ++ ['\x7d'])

def writtenItems : List JsonTree → List Char
  | [] => []
  | [item] => written item
  | item :: rest => written item ++ ',' :: writtenItems rest

def writtenEntries : List (Spelled × JsonTree) → List Char
  | [] => []
  | [(name, value)] => name.written ++ ':' :: written value
  | (name, value) :: rest => name.written ++ ':' :: (written value ++ ',' :: writtenEntries rest)
end

mutual
/-- The text of a document on lines of their own, with something before them as often as they are deep. -/
def laidOut (indent : List Char) (depth : Nat) : JsonTree → List Char
  | .list (item :: rest) =>
    '[' :: (laidOutItems indent (depth + 1) (item :: rest) ++ '\n' :: ((List.replicate depth indent).flatten ++ [']']))
  | .fields (entry :: rest) =>
    '\x7b' ::
      (laidOutEntries indent (depth + 1) (entry :: rest) ++ '\n' ::
        ((List.replicate depth indent).flatten ++ ['\x7d']))
  | tree => written tree

def laidOutItems (indent : List Char) (depth : Nat) : List JsonTree → List Char
  | [] => []
  | item :: rest =>
    '\n' :: ((List.replicate depth indent).flatten ++ (laidOut indent depth item ++
      (if rest.isEmpty then [] else ',' :: laidOutItems indent depth rest)))

def laidOutEntries (indent : List Char) (depth : Nat) : List (Spelled × JsonTree) → List Char
  | [] => []
  | (name, value) :: rest =>
    '\n' :: ((List.replicate depth indent).flatten ++ (name.written ++ ':' :: ' ' :: (laidOut indent depth value ++
      (if rest.isEmpty then [] else ',' :: laidOutEntries indent depth rest))))
end

def typeName : JsonTree → String
  | .null => "null"
  | .bool true => "true"
  | .bool false => "false"
  | .integer _ => "integer"
  | .real _ => "real"
  | .text _ => "text"
  | .list _ => "array"
  | .fields _ => "object"

def isComposed : JsonTree → Bool
  | .list _ | .fields _ => true
  | _ => false

/-- A document as a datum that functions of documents know as one. -/
def document (tree : JsonTree) : Datum := .document (String.ofList tree.written)

/-- What a document is in SQL. -/
def datum : JsonTree → Datum
  | .null => .null
  | .bool value => .int (if value then 1 else 0)
  | .integer letters =>
    match hexDigits? letters with
    | none => (Numeral.read letters).datum
    | some (negative, digits) =>
      let n : Int := hexValue digits
      if hexValue digits < wordBound then .int (Int64.ofInt (if negative then -n else n)) else .real .zero
  | .real letters => (Numeral.read letters).datum
  | .text spelled => .text (String.ofList spelled.characters)
  | tree => tree.document

/-! Where a part of a document is told by a number: how many octets stand before it in a form that has, before each
part, its kind and size. -/

/-- The octets of a part with so many inside. -/
def sizeAround (inside : Nat) : Nat :=
  inside + if inside ≤ 11 then 1 else if inside ≤ 255 then 2 else if inside ≤ 65535 then 3 else 5

def sizeOf (letters : List Char) : Nat := sizeAround (String.ofList letters).utf8ByteSize

mutual
def size : JsonTree → Nat
  | .null | .bool _ => 1
  | .integer letters | .real letters => sizeOf letters
  | .text spelled => sizeOf spelled.letters
  | .list items => sizeAround (itemsSize items)
  | .fields entries => sizeAround (entriesSize entries)

def itemsSize : List JsonTree → Nat
  | [] => 0
  | item :: rest => size item + itemsSize rest

def entriesSize : List (Spelled × JsonTree) → Nat
  | [] => 0
  | (name, value) :: rest => sizeOf name.letters + size value + entriesSize rest
end

/-- The octets before the first part inside. -/
def opening : JsonTree → Nat
  | .list items => sizeAround (itemsSize items) - itemsSize items
  | .fields entries => sizeAround (entriesSize entries) - entriesSize entries
  | _ => 0

end JsonTree

end RecordMapper
