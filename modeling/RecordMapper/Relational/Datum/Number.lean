import RecordMapper.Double.Arithmetic
import RecordMapper.Double.Notation
import RecordMapper.Relational.Datum
import RecordMapper.Text.Numeral

/-! Numbers that data stand for, and texts of numbers. A text stands for the number that it begins with, or for
zero; blanks around it do not matter. -/

namespace RecordMapper

/-- A number as it is written at the front of a text. -/
structure Numeral where
  negative : Bool
  digits : Nat
  exponent : Int
  /-- Whether it is written with a point or an exponent. -/
  fractional : Bool
  /-- Whether the text holds nothing else. -/
  whole : Bool

namespace Numeral

def isBlank (c : Char) : Bool := c = ' ' || (9 ≤ c.toNat && c.toNat ≤ 13)

def isDigit (c : Char) : Bool := (Text.digit? c).isSome

def value (digits : List Char) : Nat := digits.foldl (fun n c => n * 10 + (Text.digit? c).getD 0) 0

/-- A sign at the front, and what follows. -/
def readSign : List Char → Bool × List Char
  | '-' :: rest => (true, rest)
  | '+' :: rest => (false, rest)
  | letters => (false, letters)

/-- An exponent at the front with at least one digit. -/
def readExponent? : List Char → Option (Int × List Char)
  | [] => none
  | c :: rest =>
    if c = 'e' ∨ c = 'E' then
      let (negative, rest) := readSign rest
      let size : Int := value (rest.takeWhile isDigit)
      if (rest.takeWhile isDigit).isEmpty then none
      else some (if negative then -size else size, rest.dropWhile isDigit)
    else none

def read (letters : List Char) : Numeral :=
  let (negative, rest) := readSign (letters.dropWhile isBlank)
  let before := rest.takeWhile isDigit
  let rest := rest.dropWhile isDigit
  let (pointed, after, rest) :=
    match rest with
    | '.' :: more => (true, more.takeWhile isDigit, more.dropWhile isDigit)
    | _ => (false, [], rest)
  let (exponent, raised, rest) :=
    match readExponent? rest with
    | some (exponent, rest) => (exponent, true, rest)
    | none => (0, false, rest)
  let some := !(before ++ after).isEmpty
  ⟨negative, value (before ++ after), exponent - after.length, (pointed || raised) && some,
    some && rest.all isBlank⟩

/-- The integer, if it is one of 64 bits written without point and exponent; else the nearest double. -/
def datum (numeral : Numeral) : Datum :=
  let integer : Int := if numeral.negative then -numeral.digits else numeral.digits
  if !numeral.fractional && Word.fitsSigned integer then .int (Int64.ofInt integer)
  else .real (Double.ofDecimal numeral.negative numeral.digits numeral.exponent)

end Numeral

namespace Word

/-- The nearest signed integer of 64 bits. -/
def clamped (n : Int) : Int64 :=
  Int64.ofInt (max (-(signedBound : Int)) (min n greatestSigned))

end Word

namespace Datum

/-- A real number as a datum; there is none for NaN. -/
def ofDouble (x : Double) : Datum := if x.isNaN then .null else .real x

/-- The text of a float. Zero shows no sign. -/
def realText (x : Double) : String := if x.isZero then "0.0" else x.text .fifteen

/-- The text of a datum; NULL has none. -/
def text? : Datum → Option String
  | .null => none
  | .int n => some (toString n.toInt)
  | .real x => some (realText x)
  | .text s | .document s => some s
  | .blob octets | .garbled octets => some (Text.readLossily octets)

/-- The octets of a text or blob; of a number, those of its text. -/
def octets : Datum → List UInt8
  | .blob octets | .garbled octets => octets
  | datum => (datum.text?.getD "").toUTF8.toList

/-- Letters before the first NUL. -/
def beforeNul (letters : List Char) : List Char := letters.takeWhile fun c => c.toNat ≠ 0

/-- The letters of a datum's text; none for NULL. -/
def letters (datum : Datum) : List Char := (datum.text?.getD "").toList

/-- The number that a datum stands for. -/
def toNumber : Datum → Datum
  | .text s | .document s => (Numeral.read s.toList).datum
  | .blob octets | .garbled octets => (Numeral.read (Text.readLossily octets).toList).datum
  | datum => datum

/-- The number of a text that is nothing but a number; other data stay as they are. -/
def numberIfWhole : Datum → Datum
  | .text s | .document s =>
    let numeral := Numeral.read s.toList
    if numeral.whole then numeral.datum else .text s
  | datum => datum

/-- A datum as a double; zero where it is no number. -/
def toDouble (datum : Datum) : Double :=
  match datum.toNumber with
  | .int n => Double.ofInt n.toInt
  | .real x => x
  | _ => .zero

/-- Digits at the front of a text as an integer, the nearest of 64 bits. -/
def leadingInt (letters : List Char) : Int64 :=
  let (negative, rest) := Numeral.readSign (letters.dropWhile Numeral.isBlank)
  let size : Int := Numeral.value (rest.takeWhile Numeral.isDigit)
  Word.clamped (if negative then -size else size)

/-- A datum as an integer: floats lose their fraction, texts give the digits that they begin with. -/
def toInt : Datum → Int64
  | .null => 0
  | .int n => n
  | .real x =>
    match x.wholePart? with
    | some n => Word.clamped n
    | none => Word.clamped (if x.isNaN then 0 else if x.isNegative then -Word.signedBound else Word.signedBound)
  | datum => leadingInt datum.letters

/-- A datum as a filter: zero is false and NULL unknown. -/
def toTruth (datum : Datum) : Truth := if datum.isNull then .unknown else .ofBool !datum.toDouble.isZero

/-- An integral float as an integer, unless that is the least or the greatest of 64 bits. -/
def integerIfExact (x : Double) : Datum :=
  match x.toInt? with
  | some n => if -(Word.signedBound : Int) < n ∧ n < Word.greatestSigned then .int (Int64.ofInt n) else .real x
  | none => .real x

end Datum

end RecordMapper
