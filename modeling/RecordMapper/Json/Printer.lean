import RecordMapper.Json
import RecordMapper.Double.Notation
import RecordMapper.Text.Numeral

/-! Compact JSON text: no blanks between tokens, entries in order, only the escapes that JSON demands. -/

namespace RecordMapper.Json

/-- A character inside a string. Control characters without a short escape are written by number. -/
def escape (c : Char) : List Char :=
  if c = '"' then ['\\', '"']
  else if c = '\\' then ['\\', '\\']
  else if c = '\n' then ['\\', 'n']
  else if c = '\t' then ['\\', 't']
  else if c = '\r' then ['\\', 'r']
  else if c.toNat = 8 then ['\\', 'b']
  else if c.toNat = 12 then ['\\', 'f']
  else if c.toNat < 32 then '\\' :: 'u' :: Text.hexPadded 4 c.toNat
  else [c]

def quote (text : String) : String := String.ofList ('"' :: (text.toList.flatMap escape ++ ['"']))

mutual
def pieces : Json → List String
  | .null => ["null"]
  | .bool value => [if value then "true" else "false"]
  | .int value => [toString value]
  | .float value => [value.text .compact]
  | .text value => [quote value]
  | .list items => "[" :: itemPieces items
  | .fields entries => "\x7b" :: entryPieces entries

def itemPieces : List Json → List String
  | [] => ["]"]
  | [item] => pieces item ++ ["]"]
  | item :: rest => pieces item ++ "," :: itemPieces rest

def entryPieces : List (String × Json) → List String
  | [] => ["\x7d"]
  | [(name, value)] => quote name :: ":" :: (pieces value ++ ["\x7d"])
  | (name, value) :: rest => quote name :: ":" :: (pieces value ++ "," :: entryPieces rest)
end

def compact (value : Json) : String := String.join (pieces value)

end RecordMapper.Json
