import RecordMapper.Relational.Datum.Number
import RecordMapper.Text.Quoted

/-! Texts made from a pattern with places for data: a percent sign, flags, a width, a precision and a letter that
says how the datum is written. A place without a datum gets NULL, which is written as zero or as nothing. Texts end
before their first NUL. -/

namespace RecordMapper.Format

open Double (Decimal)

/-- A place in a pattern. -/
structure Place where
  flags : List Char := []
  width : Nat := 0
  precision : Option Nat := none
  letter : Char

def isFlag (c : Char) : Bool := ['-', '+', ' ', '#', '!', '0', ','].contains c

/-- A number, or a star for the next datum. -/
def readSize (given : List Datum) (letters : List Char) : Option Int × List Datum × List Char :=
  match letters with
  | '*' :: rest => (some (given.head?.elim 0 fun datum => datum.toInt.toInt), given.tail, rest)
  | _ =>
    let digits := letters.takeWhile Numeral.isDigit
    (if digits.isEmpty then none else some (Numeral.value digits), given, letters.dropWhile Numeral.isDigit)

/-- The place after a percent sign, with the data and letters left. -/
def readPlace (given : List Datum) (letters : List Char) : Option (Place × List Datum × List Char) :=
  let flags := letters.takeWhile isFlag
  let (width, given, letters) := readSize given (letters.dropWhile isFlag)
  let (precision, given, letters) := match letters with
    | '.' :: rest =>
      let (size, given, rest) := readSize given rest
      (some (size.getD 0).natAbs, given, rest)
    | _ => (none, given, letters)
  let flags := if width.any (· < 0) then '-' :: flags else flags
  match letters.dropWhile (· = 'l') with
  | [] => none
  | c :: rest => some (⟨flags, (width.getD 0).natAbs, precision, c⟩, given, rest)

/-- The digits of a decimal with so many places after the point. -/
def fixed (places : Nat) (d : Decimal) : List Char :=
  let exponent : Int := d.exponent + places
  let digits := if 0 ≤ exponent then d.digits * Nat.pow 10 exponent.toNat else d.digits / Nat.pow 10 (-exponent).toNat
  let letters := Nat.toDigits 10 digits
  let letters := List.replicate (places + 1 - letters.length) '0' ++ letters
  let before := letters.take (letters.length - places)
  if places = 0 then before else before ++ '.' :: letters.drop (letters.length - places)

/-- Without zeros at the end of the places; the point goes with the last of them, unless a place has to be there. -/
def withoutZeros (keep : Bool) (letters : List Char) : List Char :=
  if letters.contains '.' then
    let kept := (letters.reverse.dropWhile (· = '0')).reverse
    if kept.getLast? = some '.' then if keep then kept ++ ['0'] else kept.dropLast else kept
  else if keep then letters ++ ['.', '0']
  else letters

/-- An exponent with its sign and at least two digits. -/
def raised (letter : Char) (exponent : Int) : List Char :=
  let digits := Nat.toDigits 10 exponent.natAbs
  letter :: (if exponent < 0 then '-' else '+') :: (List.replicate (2 - digits.length) '0' ++ digits)

/-- The greatest number of significant digits that are written, and the one where more are asked for by a mark. -/
def mostDigits (marked : Bool) : Nat := if marked then 26 else 16

/-- One digit, a point, so many more digits and an exponent. -/
def mantissa (places : Nat) (short marked : Bool) (letter : Char) (x : Double) : List Char :=
  let d := x.significant (min (places + 1) (mostDigits marked))
  let digits := Nat.toDigits 10 d.digits
  let after := digits.drop 1 ++ List.replicate (places + 1 - digits.length) '0'
  let letters := digits.take 1 ++ if after.isEmpty then [] else '.' :: after
  (if short then withoutZeros marked letters else letters) ++ raised letter (if x.isZero then 0 else d.leading)

/-- A float with an exponent, as a text. -/
def scientific (places : Nat) (x : Double) : String :=
  String.ofList ((if x.isNegative then ['-'] else []) ++ mantissa places true true 'e' x)

/-- Positional for exponents from -4 up to the number of digits, with an exponent otherwise. -/
def general (digits : Nat) (short marked : Bool) (letter : Char) (x : Double) : List Char :=
  let d := x.significant (min digits (mostDigits marked))
  let leading := if x.isZero then 0 else d.leading
  if leading < -4 ∨ (digits : Int) ≤ leading then mantissa (digits - 1) short marked letter x
  else
    let letters := fixed ((digits : Int) - 1 - leading).toNat d
    if short then withoutZeros marked letters else letters

/-- The letters with a point even if nothing follows it. -/
def pointed (letters : List Char) : List Char :=
  if letters.contains '.' then letters
  else
    let isMark (c : Char) : Bool := c = 'e' || c = 'E'
    letters.takeWhile (fun c => !isMark c) ++ '.' :: letters.dropWhile fun c => !isMark c

/-- Digits after so many others, with a comma before each that makes a group of three full. -/
def groupedAfter (count : Nat) : List Char → List Char
  | [] => []
  | c :: rest =>
    if count % 3 = 0 ∧ 0 < count then ',' :: c :: groupedAfter (count + 1) rest else c :: groupedAfter (count + 1) rest

/-- Groups of three digits, with commas between. -/
def grouped (digits : List Char) : List Char := (groupedAfter 0 digits.reverse).reverse

/-- The octets of letters. -/
def octetsOf (letters : List Char) : List UInt8 := (String.ofList letters).toUTF8.toList

/-- Whether an octet goes on with a letter. -/
def goesOn (octet : UInt8) : Bool := 0x80 ≤ octet && octet < 0xC0

/-- The letters of a text as octets: those that go on with a letter stay with the one that starts it, and any others
are letters by themselves. -/
def lettersOf (octets : List UInt8) : List (List UInt8) :=
  octets.foldr (fun octet letters =>
    let isMore (letter : List UInt8) : Bool := letter.all goesOn
    if octet < 0xC0 then [octet] :: letters
    else (octet :: (letters.takeWhile isMore).flatten) :: letters.dropWhile isMore) []

/-- Octets with each mark written twice. -/
def doubled (mark : UInt8) (octets : List UInt8) : List UInt8 :=
  octets.flatMap fun octet => if octet = mark then [mark, mark] else [octet]

namespace Place

def has (place : Place) (flag : Char) : Bool := place.flags.contains flag

/-- Fills up to the width with blanks. -/
def padded (place : Place) (letters : List Char) : List Char :=
  let blanks := List.replicate (place.width - letters.length) ' '
  if place.has '-' then letters ++ blanks else blanks ++ letters

/-- Fills up a text with blanks. The width counts octets, or letters where that is asked for. -/
def paddedText (place : Place) (octets : List UInt8) : List UInt8 :=
  let size := if place.has '!' then (octets.filter fun octet => !goesOn octet).length else octets.length
  let blanks := List.replicate (place.width - size) 32
  if place.has '-' then octets ++ blanks else blanks ++ octets

/-- A text without what follows its first NUL, cut to the precision, which counts octets, or letters where that is
asked for. -/
def cut (place : Place) (octets : List UInt8) : List UInt8 :=
  let octets := octets.takeWhile (· ≠ 0)
  match place.precision with
  | some count => if place.has '!' then ((lettersOf octets).take count).flatten else octets.take count
  | none => octets

/-- The sign of a number; for one that is not negative, the last of the flags that ask for one counts. -/
def sign (place : Place) (negative : Bool) : List Char :=
  if negative then ['-'] else ((place.flags.filter fun c => c = '+' || c = ' ').getLast?).toList

/-- A number with its sign, zeros between them if asked for. -/
def number (place : Place) (sign digits : List Char) : List Char :=
  if place.has '0' && !place.has '-' then
    sign ++ List.replicate (place.width - sign.length - digits.length) '0' ++ digits
  else place.padded (sign ++ digits)

def float (place : Place) (x : Double) : List Char :=
  let precision := place.precision.getD 6
  let keep := place.has '!'
  if x.isNaN then place.padded "NaN".toList
  else if !x.isFinite then place.padded (place.sign x.isNegative ++ "Inf".toList)
  else
    let negative := x.isNegative && !x.isZero
    let digits := match place.letter with
      | 'f' =>
        let letters := fixed precision (x.atPlaces (mostDigits keep) precision)
        if keep then withoutZeros true letters else letters
      | 'e' => mantissa precision keep keep 'e' x
      | 'E' => mantissa precision keep keep 'E' x
      | 'g' => general (max precision 1) (!place.has '#') keep 'e' x
      | _ => general (max precision 1) (!place.has '#') keep 'E' x
    let digits := if place.has '#' then pointed digits else digits
    let digits := if place.has ',' then grouped (digits.takeWhile Numeral.isDigit) ++ digits.dropWhile Numeral.isDigit
      else digits
    place.number (place.sign negative) digits

/-- Digits with zeros before them up to the precision, and up to the width beside a sign if that is asked for. -/
def filled (place : Place) (sign digits : List Char) : List Char :=
  let count := max (place.precision.getD 1) (if place.has '0' then place.width - sign.length else 0)
  List.replicate (count - digits.length) '0' ++ digits

/-- An integer's bits in another base. -/
def radix (place : Place) (base : Nat) (n : Int64) : List Char :=
  let digits := place.filled [] (Nat.toDigits base n.toUInt64.toNat)
  let mark := if place.has '#' ∧ n ≠ 0 then
      if base = 8 then ['0'] else if place.letter = 'X' then ['0', 'X'] else ['0', 'x'] else []
  place.padded (mark ++ if place.letter = 'x' then digits else digits.map Char.toUpper)

def integer (place : Place) (n : Int) : List Char :=
  let sign := if place.letter = 'u' then [] else place.sign (n < 0)
  let digits := place.filled sign (Nat.toDigits 10 n.natAbs)
  place.padded (sign ++ if place.has ',' then grouped digits else digits)

/-- What follows the digits of a number that tells a place in an order. -/
def ordinalEnd (n : Nat) : List Char :=
  (match n % 10, n / 10 % 10 with
  | _, 1 => "th"
  | 1, _ => "st"
  | 2, _ => "nd"
  | 3, _ => "rd"
  | _, _ => "th").toList

def ordinal (place : Place) (n : Int) : List Char :=
  let sign := place.sign (n < 0)
  place.padded (sign ++ place.filled sign (Nat.toDigits 10 n.natAbs ++ ordinalEnd n.natAbs))

/-- The octets of a datum, NULL among them. -/
def shown (datum : Datum) : List UInt8 := if datum.isNull then octetsOf "(NULL)".toList else datum.octets

/-- What stands at the place, and the data left; `none` for a letter that means nothing. -/
def write (place : Place) (given : List Datum) : Option (List UInt8 × List Datum) :=
  let datum := given.headD .null
  match place.letter with
  | '%' => some (octetsOf (place.padded ['%']), given)
  | 'd' | 'i' => some (octetsOf (place.integer datum.toInt.toInt), given.tail)
  | 'u' => some (octetsOf (place.integer datum.toInt.toUInt64.toNat), given.tail)
  | 'r' => some (octetsOf (place.ordinal datum.toInt.toInt), given.tail)
  | 'n' => some ([], given)
  | 'x' | 'X' | 'p' => some (octetsOf (place.radix 16 datum.toInt), given.tail)
  | 'o' => some (octetsOf (place.radix 8 datum.toInt), given.tail)
  | 'f' | 'e' | 'E' | 'g' | 'G' => some (octetsOf (place.float datum.toDouble), given.tail)
  | 's' | 'z' => some (place.paddedText (place.cut datum.octets), given.tail)
  | 'c' =>
    let letter := (lettersOf (datum.octets.takeWhile (· ≠ 0))).headD [0]
    let octets := (List.replicate (max 1 (place.precision.getD 1)) letter).flatten
    some (({ place with flags := '!' :: place.flags }).paddedText octets, given.tail)
  | 'q' => some (place.paddedText (doubled 39 (place.cut (shown datum))), given.tail)
  | 'w' => some (place.paddedText (doubled 34 (place.cut (shown datum))), given.tail)
  | 'Q' =>
    let octets := if datum.isNull then place.cut (octetsOf "NULL".toList)
      else 39 :: (doubled 39 (place.cut datum.octets) ++ [39])
    some (place.paddedText octets, given.tail)
  | _ => none

end Place

/-- Writes a pattern, at most `fuel` parts of it. A place that means nothing ends the text. -/
def fill : Nat → List Char → List Datum → List UInt8
  | 0, _, _ => []
  | _ + 1, [], _ => []
  | fuel + 1, c :: rest, given =>
    if c = '%' then
      match readPlace given rest with
      | none => octetsOf ['%']
      | some (place, given, rest) =>
        match place.write given with
        | some (octets, given) => octets ++ fill fuel rest given
        | none => []
    else octetsOf [c] ++ fill fuel rest given

/-- Whether a pattern has nothing to write before it ends. -/
def isVoid : List Char → Bool
  | [] => true
  | c :: rest => c = '%' && (readPlace [] rest).any fun (place, _) => (place.write []).isNone

/-- The text of a pattern with the data after it; NULL where there is nothing to write. -/
def run : List Datum → Datum
  | [] => .null
  | pattern :: given =>
    match pattern.text? with
    | none => .null
    | some text =>
      let letters := Datum.beforeNul text.toList
      if isVoid letters then .null else .ofOctets (fill letters.length letters given)

end RecordMapper.Format
