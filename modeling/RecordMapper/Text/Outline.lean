import RecordMapper.Text.Numeral
import RecordMapper.Text.Unshown

/-! One-line descriptions of structured values, for logs and people: strings quoted, fields by name. -/

namespace RecordMapper.Text

/-- A character inside a quoted one-line string. -/
def escapeShown (c : Char) : List Char :=
  if c = '"' then ['\\', '"']
  else if c = '\\' then ['\\', '\\']
  else if c = '\n' then ['\\', 'n']
  else if c = '\t' then ['\\', 't']
  else if c = '\r' then ['\\', 'r']
  else if c.toNat = 0 then ['\\', '0']
  else if isUnshown c then '\\' :: 'u' :: '\x7b' :: (Nat.toDigits 16 c.toNat ++ ['\x7d'])
  else [c]

def shown (text : String) : String := String.ofList ('"' :: (text.toList.flatMap escapeShown ++ ['"']))

/-- The shape of a described value. -/
inductive Outline where
  /-- A word or number, written as it is. -/
  | word (text : String)
  | text (text : String)
  | absent
  | present (inside : Outline)
  | items (inside : List Outline)
  /-- A named group of named parts. -/
  | group (name : String) (parts : List (String × Outline))

namespace Outline

def flag (value : Bool) : Outline := .word (if value then "true" else "false")

def number (n : Nat) : Outline := .word (toString n)

def optional (make : α → Outline) : Option α → Outline
  | none => .absent
  | some value => .present (make value)

mutual
def line : Outline → String
  | .word plain => plain
  | .text inside => shown inside
  | .absent => "None"
  | .present inside => "Some(" ++ line inside ++ ")"
  | .items inside => "[" ++ lineItems inside ++ "]"
  | .group name parts => name ++ " \x7b " ++ lineParts parts ++ " \x7d"

def lineItems : List Outline → String
  | [] => ""
  | [item] => line item
  | item :: rest => line item ++ ", " ++ lineItems rest

def lineParts : List (String × Outline) → String
  | [] => ""
  | [(name, part)] => name ++ ": " ++ line part
  | (name, part) :: rest => name ++ ": " ++ line part ++ ", " ++ lineParts rest
end

end Outline

end RecordMapper.Text
