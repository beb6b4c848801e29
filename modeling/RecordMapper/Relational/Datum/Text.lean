import RecordMapper.Relational.Fault
import RecordMapper.Relational.Format
import RecordMapper.Relational.Pattern
import RecordMapper.Text.Search

/-! Texts and blobs as sequences: measuring, searching, cutting and writing them out. Where a text is measured or cut
it ends before its first NUL. -/

namespace RecordMapper.Datum

/-- The character of a code point; what is none becomes a replacement character. -/
def character (datum : Datum) : Char :=
  let n := datum.toInt.toInt
  if h : 0 ≤ n ∧ n.toNat.isValidChar then Char.ofNatAux n.toNat h.2 else Text.replacementChar

/-- The octets of a text before its first NUL. -/
def visible (datum : Datum) : List UInt8 := datum.octets.takeWhile (· ≠ 0)

def hexOf (octets : List UInt8) : String :=
  String.ofList ((octets.flatMap fun octet => Text.hexPadded 2 octet.toNat).map Char.toUpper)

/-- Where one text, or blob, stands in another, counted from one in letters or octets. -/
def place (whole part : Datum) : Datum :=
  let found := match whole, part with
    | .null, _ | _, .null => none
    | .blob a, .blob b => some ((Text.place? b a).elim 0 (· + 1))
    | _, _ =>
      some ((Text.place? part.octets whole.octets).elim 0 fun before =>
        (((whole.octets.take (before + 1)).drop 1).filter fun octet => !Format.goesOn octet).length + 1)
  match found with
  | some n => .int (Int64.ofNat n)
  | none => .null

def length : Datum → Datum
  | .null => .null
  | .blob octets => .int (Int64.ofNat octets.length)
  | datum => .int (Int64.ofNat (Format.lettersOf datum.visible).length)

/-- The greatest octet length of a pattern. -/
def greatestPattern : Nat := 50000

def isLongPattern (pattern : Datum) : Bool := greatestPattern < (pattern.text?.getD "").utf8ByteSize

/-- Whether a datum's text goes with a pattern, both cut at NUL. -/
def goesWith (make : List Char → Pattern) (datum pattern : Datum) : Truth :=
  if pattern.isNull || datum.isNull then .unknown
  else .ofBool ((make (beforeNul pattern.letters)).fits (beforeNul datum.letters))

/-- Whether a datum's text goes with a pattern of `%` and `_`. -/
def alike (datum pattern : Datum) : Truth := goesWith (Pattern.ofLike none) datum pattern

/-- The test by a pattern as an operation, which refuses patterns that are too long. -/
def fits (make : List Char → Pattern) (datum pattern : Datum) : Except Fault Datum :=
  if !pattern.isNull && !datum.isNull && pattern.isLongPattern then .error "LIKE or GLOB pattern too complex"
  else .ok (.ofTruth (goesWith make datum pattern))

/-- Whether a datum's text goes with a pattern of `%` and `_`, perhaps with an escape letter. -/
def like (datum pattern : Datum) : List Datum → Except Fault Datum
  | [] => fits (Pattern.ofLike none) datum pattern
  | escape :: _ =>
    match escape, escape.letters with
    | .null, _ => .ok .null
    | _, [c] => fits (Pattern.ofLike (some c)) datum pattern
    | _, _ => .error "ESCAPE expression must be a single character"

/-- Changes letters that are one octet. -/
def mapLetters (change : Char → Char) (datum : Datum) : Datum :=
  let ofOctet (octet : UInt8) : UInt8 := UInt8.ofNat (change (Char.ofNat octet.toNat)).toNat
  if datum.isNull then .null else .ofOctets (datum.octets.map ofOctet)

/-- Drops letters of a set at the ends that are asked for; without a set, blanks. -/
def trimmed (left right : Bool) (datum : Datum) (set : List Datum) : Datum :=
  let inSet (letter : List UInt8) : Bool := match set with
    | [] => letter = [32]
    | given :: _ => (Format.lettersOf given.visible).contains letter
  if datum.isNull || set.any Datum.isNull then .null
  else
    let letters := Format.lettersOf datum.octets
    let letters := if left then letters.dropWhile inSet else letters
    .ofOctets (if right then (letters.reverse.dropWhile inSet).reverse else letters).flatten

def quoted : Datum → Datum
  | .null => .text "NULL"
  | .text s => .ofOctets (39 :: (Format.doubled 39 (visible (.text s)) ++ [39]))
  | .garbled octets => .ofOctets (39 :: (Format.doubled 39 (visible (.garbled octets)) ++ [39]))
  | .blob octets => .text ("X'" ++ hexOf octets ++ "'")
  | .real x =>
    let short := Datum.realText x
    if !x.isFinite then .text (if x.isNegative then "-9.0e+999" else "9.0e+999")
    else .text (if (Numeral.read short.toList).datum.toDouble = x || x.isZero then short
      else Format.scientific 20 x)
  | datum => .text (datum.text?.getD "")

def replaced (whole old new : Datum) : Datum :=
  if whole.isNull || old.isNull then .null
  else if old.visible.isEmpty then .ofOctets whole.octets
  else if new.isNull then .null
  else .ofOctets (Text.replaceAll old.octets new.octets whole.octets)

/-- A part of a sequence: from a place, counted from one or from the end, so many items after or before it. -/
def cut (items : List α) (first : Int) (count : Option Int) : List α :=
  let length : Int := items.length
  let backward := count.any (· < 0)
  let size : Int := (count.map fun n => (n.natAbs : Int)).getD 1000000000
  let (start, size) : Int × Int :=
    if first < 0 then
      if first + length < 0 then (0, max 0 (size + (first + length))) else (first + length, size)
    else if 0 < first then (first - 1, size)
    else (0, if 0 < size then size - 1 else size)
  let (start, size) := if backward then (if start < size then (0, start) else (start - size, size)) else (start, size)
  (items.drop start.toNat).take size.toNat

/-- The lower half of an integer, as an integer of 32 bits. -/
def narrow (datum : Datum) : Int := datum.toInt.toInt32.toInt

/-- Places and lengths are integers of 32 bits. -/
def part (whole first : Datum) (count : List Datum) : Datum :=
  if first.isNull || count.any Datum.isNull then .null
  else
    match whole with
    | .null | .blob [] => .null
    | .blob octets => .blob (cut octets first.narrow (count.head?.map narrow))
    | _ => .ofOctets (cut (Format.lettersOf whole.visible) first.narrow (count.head?.map narrow)).flatten

def typeName : Datum → String
  | .null => "null"
  | .int _ => "integer"
  | .real _ => "real"
  | .text _ | .garbled _ | .document _ => "text"
  | .blob _ => "blob"

/-- The class of a consonant that sounds alike, from one; zero for vowels and what is no letter. -/
def soundClass (c : Char) : Nat :=
  match c.toLower with
  | 'b' | 'f' | 'p' | 'v' => 1
  | 'c' | 'g' | 'j' | 'k' | 'q' | 's' | 'x' | 'z' => 2
  | 'd' | 't' => 3
  | 'l' => 4
  | 'm' | 'n' => 5
  | 'r' => 6
  | _ => 0

/-- Classes of letters, a class that repeats left out. -/
def sounds (prior : Nat) : List Char → List Nat
  | [] => []
  | c :: rest =>
    let sound := soundClass c
    if sound = 0 then sounds 0 rest else if sound = prior then sounds prior rest else sound :: sounds sound rest

def isLetter (c : Char) : Bool := ('A' ≤ c && c ≤ 'Z') || ('a' ≤ c && c ≤ 'z')

/-- A letter and three digits for how a text sounds. -/
def soundex (datum : Datum) : String :=
  match datum.letters.dropWhile fun c => !isLetter c with
  | [] => "?000"
  | c :: rest =>
    let digits := ((sounds (soundClass c) rest).take 3).map fun n => Char.ofNat (48 + n)
    String.ofList (c.toUpper :: (digits ++ List.replicate (3 - digits.length) '0'))

/-- Pairs of hexadecimal digits; between pairs, letters of a set are passed over. -/
def readHex (passed : List Char) : List Char → Option (List UInt8)
  | [] => some []
  | [c] => if passed.contains c then some [] else none
  | c :: d :: rest =>
    match Text.hexValue? c with
    | some high => do
      let low ← Text.hexValue? d
      return UInt8.ofNat (high * 16 + low) :: (← readHex passed rest)
    | none => if passed.contains c then readHex passed (d :: rest) else none

def fromHexadecimal (datum : Datum) (passed : List Datum) : Datum :=
  if datum.isNull || passed.any Datum.isNull then .null
  else
    match readHex ((passed.head?.map Datum.letters).getD []) (beforeNul datum.letters) with
    | some octets => .blob octets
    | none => .null

/-- The code point of a letter. What is no character is a replacement character, but an octet alone is itself. -/
def pointOf : List UInt8 → Nat
  | [] => 0
  | lead :: rest =>
    if lead < 0xC0 then lead.toNat
    else
      let point := rest.foldl (fun n octet => n * 64 + octet.toNat % 64) (Text.leadBits lead.toNat)
      if point < 128 || point / 2048 = 27 || point / 2 = 32767 then Text.replacementChar.toNat else point

/-- The first code point; NULL if there is none. -/
def codePoint (datum : Datum) : Datum :=
  match Format.lettersOf datum.visible with
  | [] => .null
  | letter :: _ => .int (Int64.ofNat (pointOf letter))

/-- A blob of so many zeros. -/
def zeros (datum : Datum) : Except Fault Datum :=
  let count := datum.toInt.toInt
  if count ≤ 1000000000 then .ok (.blob (List.replicate count.toNat 0)) else .error .tooBig

end RecordMapper.Datum
