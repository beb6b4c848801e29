import RecordMapper.Text.Numeral
import RecordMapper.Word

/-! What is wrong with a JSON document, and where. A message that ends in a place is taken apart, so that the place
is written in one way only. -/

namespace RecordMapper.Json

structure Fault where
  message : String
  /-- Zero if the place is not known. -/
  line : Nat := 0
  column : Nat := 0
  deriving DecidableEq

namespace Fault

def text (fault : Fault) : String :=
  if fault.line = 0 then fault.message
  else fault.message ++ " at line " ++ toString fault.line ++ " column " ++ toString fault.column

/-- What stands before and after the last place where a mark occurs. -/
def aroundLast? (mark : List Char) : List Char → Option (List Char × List Char)
  | [] => none
  | c :: rest =>
    match aroundLast? mark rest with
    | some (before, after) => some (c :: before, after)
    | none => if mark.isPrefixOf (c :: rest) then some ([], (c :: rest).drop mark.length) else none

/-- A number of 64 bits at the start, with what follows it. -/
def number? (letters : List Char) : Option (Nat × List Char) :=
  match Text.readUnsigned (18446744073709551615) (String.ofList (letters.takeWhile Char.isDigit)) with
  | .ok n => some (n, letters.dropWhile Char.isDigit)
  | .error _ => none

/-- A line and a column that make up the whole text. -/
def place? (letters : List Char) : Option (Nat × Nat) := do
  let mark := " column ".toList
  let (line, rest) ← number? letters
  if mark.isPrefixOf rest then
    match ← number? (rest.drop mark.length) with
    | (column, []) => return (line, column)
    | _ => none
  else none

/-- The fault that a message tells. -/
def ofMessage (message : String) : Fault :=
  match aroundLast? " at line ".toList message.toList with
  | none => ⟨message, 0, 0⟩
  | some (before, after) =>
    match place? after with
    | some (line, column) => ⟨String.ofList before, line, column⟩
    | none => ⟨message, 0, 0⟩

end Fault

end RecordMapper.Json
