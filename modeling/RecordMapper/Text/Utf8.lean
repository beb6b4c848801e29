/-! Reading octets as UTF-8 text. An ill-formed part is told, or becomes one replacement character. An ill-formed part is as long as possible a start of some well-formed character, or one octet. -/

namespace RecordMapper.Text

/-- The range of the second octet and the number of octets after that, by the lead octet of a character of
several octets. The narrowed ranges leave out overlong forms, surrogates and code points above U+10FFFF. -/
def afterLead? (lead : Nat) : Option (Nat × Nat × Nat) :=
  if 0xC2 ≤ lead ∧ lead ≤ 0xDF then some (0x80, 0xBF, 0)
  else if lead = 0xE0 then some (0xA0, 0xBF, 1)
  else if lead = 0xED then some (0x80, 0x9F, 1)
  else if 0xE1 ≤ lead ∧ lead ≤ 0xEF then some (0x80, 0xBF, 1)
  else if lead = 0xF0 then some (0x90, 0xBF, 2)
  else if 0xF1 ≤ lead ∧ lead ≤ 0xF3 then some (0x80, 0xBF, 2)
  else if lead = 0xF4 then some (0x80, 0x8F, 2)
  else none

/-- The bits of the lead octet that belong to the code point. -/
def leadBits (lead : Nat) : Nat :=
  if lead < 0xE0 then lead % 0x20 else if lead < 0xF0 then lead % 0x10 else lead % 0x08

def replacementChar : Char := Char.ofNat 0xFFFD

/-- Reads the remaining octets of a character; `none` where one is missing or out of range, with the
octets that then still have to be read. -/
def readTail (point first last : Nat) : Nat → List Nat → Option Nat × List Nat
  | _, [] => (none, [])
  | more, octet :: rest =>
    if first ≤ octet ∧ octet ≤ last then
      let next := point * 64 + octet % 64
      match more with
      | 0 => (some next, rest)
      | more + 1 => readTail next 0x80 0xBF more rest
    else (none, octet :: rest)

/-- Characters of an octet sequence, at most `fuel` of them. -/
def readChars : Nat → List Nat → List Char
  | 0, _ => []
  | _ + 1, [] => []
  | fuel + 1, octet :: rest =>
    if octet < 0x80 then Char.ofNat octet :: readChars fuel rest
    else
      match afterLead? octet with
      | none => replacementChar :: readChars fuel rest
      | some (first, last, more) =>
        match readTail (leadBits octet) first last more rest with
        | (some point, after) => Char.ofNat point :: readChars fuel after
        | (none, after) => replacementChar :: readChars fuel after

/-- Every character takes at least one octet, so the number of octets is fuel enough. -/
def readLossily (octets : List UInt8) : String :=
  String.ofList (readChars octets.length (octets.map UInt8.toNat))

/-- Where octets are not well-formed. -/
structure Utf8Fault where
  /-- How many octets stand before it. -/
  index : Nat
  /-- How many octets are wrong together; nothing where the octets end too early. -/
  length : Option Nat
  deriving DecidableEq

def Utf8Fault.message (fault : Utf8Fault) : String :=
  match fault.length with
  | some length =>
    "invalid utf-8 sequence of " ++ toString length ++ " bytes from index " ++ toString fault.index
  | none => "incomplete utf-8 byte sequence from index " ++ toString fault.index

/-- The first fault of octets, at most `fuel` of which are looked at, after `index` others. -/
def utf8Fault? (index : Nat) : Nat → List Nat → Option Utf8Fault
  | 0, _ | _, [] => none
  | fuel + 1, octet :: rest =>
    if octet < 0x80 then utf8Fault? (index + 1) fuel rest
    else
      match afterLead? octet with
      | none => some ⟨index, some 1⟩
      | some (first, last, more) =>
        match readTail (leadBits octet) first last more rest with
        | (some _, after) => utf8Fault? (index + 1 + (rest.length - after.length)) fuel after
        | (none, []) => some ⟨index, none⟩
        | (none, after) => some ⟨index, some (1 + (rest.length - after.length))⟩

/-- The text of well-formed octets. -/
def decode (octets : List UInt8) : Except Utf8Fault String :=
  match utf8Fault? 0 octets.length (octets.map UInt8.toNat) with
  | none => .ok (readLossily octets)
  | some fault => .error fault

end RecordMapper.Text
