/-! Quotation by doubling: a quoted text stands between two marks, and a mark inside it is written twice.
`scan` reads one quoted text off the front of a longer one. -/

namespace RecordMapper.Text

/-- The inside of a quoted text: each mark doubled. -/
def doubled (mark : Char) : List Char → List Char
  | [] => []
  | c :: rest => if c = mark then mark :: mark :: doubled mark rest else c :: doubled mark rest

def enclosed (mark : Char) (inside : List Char) : List Char := mark :: (doubled mark inside ++ [mark])

def enclose (mark : Char) (text : String) : String := String.ofList (enclosed mark text.toList)

/-- Reads up to the closing mark, which is the first mark that is not the first of a pair. -/
def scanInside (mark : Char) : List Char → Option (List Char × List Char)
  | [] => none
  | [c] => if c = mark then some ([], []) else none
  | c :: d :: rest =>
    if c = mark then
      if d = mark then (scanInside mark rest).map fun (inside, after) => (mark :: inside, after)
      else some ([], d :: rest)
    else (scanInside mark (d :: rest)).map fun (inside, after) => (c :: inside, after)

/-- One quoted text and what follows it; `none` if the text does not start with the mark or never closes. -/
def scan (mark : Char) : List Char → Option (List Char × List Char)
  | [] => none
  | c :: rest => if c = mark then scanInside mark rest else none

end RecordMapper.Text
