/-! Blank characters and the words between them. The class is the `White_Space` property of Unicode,
so a non-breaking or ideographic space separates words just as a tab does. -/

namespace RecordMapper.Text

/-- Members of `White_Space`, as inclusive ranges of code points. -/
def blankRanges : List (Nat × Nat) :=
  [(0x09, 0x0D), (0x20, 0x20), (0x85, 0x85), (0xA0, 0xA0), (0x1680, 0x1680), (0x2000, 0x200A),
   (0x2028, 0x2029), (0x202F, 0x202F), (0x205F, 0x205F), (0x3000, 0x3000)]

def isBlank (c : Char) : Bool := blankRanges.any fun (first, last) => first ≤ c.toNat && c.toNat ≤ last

/-- Words of a text: maximal runs of characters that are not blank. `current` holds the run being read,
last character first. -/
def wordsFrom (current : List Char) : List Char → List (List Char)
  | [] => if current.isEmpty then [] else [current.reverse]
  | c :: rest =>
    if isBlank c then
      if current.isEmpty then wordsFrom [] rest else current.reverse :: wordsFrom [] rest
    else wordsFrom (c :: current) rest

def words (text : String) : List String := (wordsFrom [] text.toList).map String.ofList

/-- A text with nothing but blanks in it, the empty text included. -/
def allBlank (text : String) : Bool := text.toList.all isBlank

end RecordMapper.Text
