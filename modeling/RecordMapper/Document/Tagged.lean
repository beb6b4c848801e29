import RecordMapper.Json.Access
import RecordMapper.Json.Reader
import RecordMapper.Value

/-! Tagged documents, which keep what plain JSON loses: the kind of a value, every bit of a float, integers of 64
bits and the order of fields. -/

namespace RecordMapper

namespace Double

/-- The sixteen hexadecimal digits of a double's bits. -/
def bitText (x : Double) : String := String.ofList (Text.hexPadded 16 x.bits.toNat)

def ofBitText (digits : String) : Double :=
  ⟨UInt64.ofNat (digits.toList.foldl (fun n c => n * 16 + (Text.hexValue? c).getD 0) 0)⟩

end Double

namespace Value

/-- Two hexadecimal digits for each octet. -/
def octetText (octets : List UInt8) : String :=
  String.ofList (octets.flatMap fun octet => Text.hexPadded 2 octet.toNat)

def octetsOf : List Char → List UInt8
  | a :: b :: rest => UInt8.ofNat ((Text.hexValue? a).getD 0 * 16 + (Text.hexValue? b).getD 0) :: octetsOf rest
  | _ => []

def tagged : Value → Json
  | .null => .null
  | .int n => .fields [("int", .numeral n.toInt)]
  | .float x => .fields [("float", .text x.bitText)]
  | .text s => .fields [("text", .text s)]
  | .bytes octets => .fields [("bytes", .text (octetText octets))]
  | .bool b => .fields [("bool", .bool b)]

/-- The value of a tagged document; null for every other document. -/
def ofTagged : Json → Value
  | .fields [("int", n)] => .int (Int64.ofInt n.asInt)
  | .fields [("float", bits)] => .float (.ofBitText bits.asText)
  | .fields [("text", s)] => .text s.asText
  | .fields [("bytes", octets)] => .bytes (octetsOf octets.asText.toList)
  | .fields [("bool", b)] => .bool b.isTrue
  | _ => .null

end Value

namespace Json

mutual
def tagged : Json → Json
  | .null => .null
  | .bool b => .fields [("bool", .bool b)]
  | .int n => .fields [("int", .numeral n)]
  | .float x => .fields [("float", .text x.bitText)]
  | .text s => .fields [("text", .text s)]
  | .list inside => .fields [("list", .list (taggedItems inside))]
  | .fields record => .fields [("fields", .list (taggedEntries record))]

def taggedItems : List Json → List Json
  | [] => []
  | item :: rest => tagged item :: taggedItems rest

def taggedEntries : Record → List Json
  | [] => []
  | (name, item) :: rest => .list [.text name, tagged item] :: taggedEntries rest
end

end Json

end RecordMapper
