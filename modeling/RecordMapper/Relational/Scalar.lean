import RecordMapper.Relational.Affinity
import RecordMapper.Relational.Datum.Arithmetic
import RecordMapper.Relational.Datum.Text
import RecordMapper.Relational.Json.Function
import RecordMapper.Relational.Moment

/-! Functions of SQL from data to a datum, by name and number of arguments. -/

namespace RecordMapper

inductive Scalar where
  | absolute
  | characters
  | firstGiven
  | joined
  | joinedBy
  | format
  | glob
  | hexadecimal
  | place
  | length
  | like
  | lower
  | upper
  | trimLeft
  | trimRight
  | trim
  | greatest
  | least
  | nullIf
  | same
  | octets
  | quote
  | replace
  | round
  | sign
  | soundex
  | part
  | typeName
  | codePoint
  | fromHexadecimal
  | zeros
  | version
  /-- A search in a whole text, which no table here has. -/
  | search
  | json (function : JsonFunction)
  | moment (function : MomentFunction)
  deriving DecidableEq

namespace Scalar

/-- Names of functions with the least number of their arguments and the greatest, if there is one. -/
def table : List (String × Nat × Option Nat × Scalar) :=
  [("ABS", 1, some 1, .absolute), ("CHAR", 0, none, .characters), ("COALESCE", 2, none, .firstGiven),
   ("CONCAT", 1, none, .joined), ("CONCAT_WS", 2, none, .joinedBy), ("FORMAT", 0, none, .format),
   ("GLOB", 2, some 2, .glob), ("HEX", 1, some 1, .hexadecimal), ("IFNULL", 2, some 2, .firstGiven),
   ("IIF", 3, some 3, .same), ("INSTR", 2, some 2, .place), ("LENGTH", 1, some 1, .length), ("LIKE", 2, some 3, .like),
   ("LIKELIHOOD", 2, some 2, .same), ("LIKELY", 1, some 1, .same), ("LOWER", 1, some 1, .lower),
   ("LTRIM", 1, some 2, .trimLeft), ("MATCH", 2, some 2, .search), ("MAX", 2, none, .greatest),
   ("MIN", 2, none, .least), ("NULLIF", 2, some 2, .nullIf), ("OCTET_LENGTH", 1, some 1, .octets),
   ("PRINTF", 0, none, .format), ("QUOTE", 1, some 1, .quote), ("REPLACE", 3, some 3, .replace),
   ("ROUND", 1, some 2, .round), ("RTRIM", 1, some 2, .trimRight), ("SIGN", 1, some 1, .sign),
   ("SOUNDEX", 1, some 1, .soundex), ("SQLITE_VERSION", 0, some 0, .version), ("SUBSTR", 2, some 3, .part),
   ("SUBSTRING", 2, some 3, .part), ("TRIM", 1, some 2, .trim), ("TYPEOF", 1, some 1, .typeName),
   ("UNHEX", 1, some 2, .fromHexadecimal), ("UNICODE", 1, some 1, .codePoint), ("UNLIKELY", 1, some 1, .same),
   ("UPPER", 1, some 1, .upper), ("ZEROBLOB", 1, some 1, .zeros)] ++
    JsonFunction.table.map (fun (name, fewest, most, function) => (name, fewest, most, .json function)) ++
    MomentFunction.table.map fun (name, fewest, most, function) => (name, fewest, most, .moment function)

/-- Whether a function has the name, which is in capitals. -/
def isNamed (name : String) : Bool := table.any fun entry => entry.1 = name

/-- The function of a name in capitals that takes so many arguments. -/
def find? (name : String) (count : Nat) : Option Scalar :=
  (table.find? fun (given, fewest, most, _) =>
    given = name && fewest ≤ count && count ≤ most.getD count).map fun (_, _, _, scalar) => scalar

/-- What functions give that work on no documents and no moments. -/
def simple (collation : Collation) : Scalar → List Datum → Except Fault Datum
  | .absolute, [x] => x.absolute
  | .characters, given => .ok (.text (String.ofList (given.map Datum.character)))
  | .joined, given => .ok (.ofOctets (given.flatMap Datum.octets))
  | .joinedBy, separator :: given =>
    .ok (if separator.isNull then .null
      else .ofOctets (separator.octets.intercalate ((given.map Datum.octets).filter fun octets => !octets.isEmpty)))
  | .format, given => .ok (Format.run given)
  | .glob, [pattern, x] => x.fits (fun letters => Pattern.ofGlob letters.length letters) pattern
  | .hexadecimal, [x] => .ok (.text (Datum.hexOf x.octets))
  | .place, [x, y] => .ok (x.place y)
  | .length, [x] => .ok x.length
  | .like, pattern :: x :: escape => x.like pattern escape
  | .lower, [x] => .ok (x.mapLetters Char.toLower)
  | .upper, [x] => .ok (x.mapLetters Char.toUpper)
  | .trimLeft, x :: set => .ok (x.trimmed true false set)
  | .trimRight, x :: set => .ok (x.trimmed false true set)
  | .trim, x :: set => .ok (x.trimmed true true set)
  | .greatest, given => .ok (Datum.extreme collation.order (· = .gt) given)
  | .least, given => .ok (Datum.extreme collation.order (· ≠ .gt) given)
  | .nullIf, [x, y] => .ok (if collation.order x y = .eq then .null else x)
  | .octets, [x] => .ok (if x.isNull then .null else .int (Int64.ofNat x.octets.length))
  | .quote, [x] => .ok x.quoted
  | .replace, [x, old, new] => .ok (x.replaced old new)
  | .round, x :: places => .ok (x.rounded places)
  | .sign, [x] => .ok x.sign
  | .soundex, [x] => .ok (.text x.soundex)
  | .part, x :: first :: count => .ok (x.part first count)
  | .typeName, [x] => .ok (.text x.typeName)
  | .codePoint, [x] => .ok x.codePoint
  | .fromHexadecimal, x :: passed => .ok (x.fromHexadecimal passed)
  | .zeros, [x] => x.zeros
  | .version, [] => .ok (.text "3.46.0")
  | .search, _ => .error "unable to use function MATCH in the requested context"
  | _, _ => .error "wrong number of arguments"

/-- What a function gives. Some pass on one of their data as it is. -/
def apply (collation : Collation) : Scalar → List Datum → Except Fault Datum
  | .firstGiven, given => .ok ((given.find? fun datum => !datum.isNull).getD .null)
  | .same, given => .ok (given.headD .null)
  | .json function, given => function.apply given
  | .moment function, given => .ok (function.apply (given.map Datum.plain))
  | function, given => simple collation function (given.map Datum.plain)

end Scalar

end RecordMapper
