import RecordMapper.Text.Numeral
import RecordMapper.Text.Utf8

/-! Texts in which a percent sign with two hexadecimal digits stands for an octet. -/

namespace RecordMapper.Octets

/-- The octets of a text. A percent sign that is not followed by two digits stands for itself. -/
def ofEscaped : List Char → List UInt8
  | '%' :: c :: d :: rest =>
    match Text.hexValue? c, Text.hexValue? d with
    | some high, some low => UInt8.ofNat (high * 16 + low) :: ofEscaped rest
    | _, _ => '%'.toNat.toUInt8 :: ofEscaped (c :: d :: rest)
  | c :: rest => (String.singleton c).toUTF8.toList ++ ofEscaped rest
  | [] => []

/-- A part of a form, where a plus sign is a blank. -/
def readPart (letters : List Char) : String :=
  Text.readLossily (ofEscaped (letters.map fun c => if c = '+' then ' ' else c))

/-- The names of a form with their values. Parts without any letter do not count. -/
def readForm (letters : List Char) : List (String × String) :=
  ((letters.splitOn '&').filter fun part => !part.isEmpty).map fun part =>
    (readPart (part.takeWhile (· ≠ '=')), readPart (part.dropWhile (· ≠ '=')).tail)

end RecordMapper.Octets
