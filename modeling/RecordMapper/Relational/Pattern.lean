/-! Patterns for whole texts. Matching keeps, letter by letter, the places of the pattern that can be reached, so
its cost is the product of both lengths, however many runs of any letters the pattern has. -/

namespace RecordMapper

/-- One mark of a pattern. -/
inductive Mark where
  /-- Any letters, or none. -/
  | any
  /-- One letter. -/
  | one
  /-- This letter; if folded, an ASCII letter in either case. -/
  | letter (c : Char) (folded : Bool)
  /-- One letter that lies in some range, or that lies in none. -/
  | within (negated : Bool) (ranges : List (Char × Char))
  deriving DecidableEq

/-- Whether a mark goes with a single letter. -/
def Mark.takes : Mark → Char → Bool
  | .any, _ => false
  | .one, _ => true
  | .letter c folded, d => c = d || (folded && c.toLower = d.toLower)
  | .within negated ranges, d => ranges.any (fun (first, last) => first ≤ d && d ≤ last) != negated

abbrev Pattern := List Mark

namespace Pattern

/-- The places that can be reached before the first letter: one flag a mark, and one for the end. -/
def start : Bool → Pattern → List Bool
  | here, [] => [here]
  | here, mark :: rest => here :: start (here && mark = .any) rest

/-- The places that can be reached after one more letter; `here` tells whether the first one is among them. -/
def advance (c : Char) : Bool → Pattern → List Bool → List Bool
  | here, mark :: marks, before :: rest =>
    let stays := here || (before && mark = .any)
    stays :: advance c ((before && mark.takes c) || (stays && mark = .any)) marks rest
  | here, _, _ => [here]

/-- Whether a whole text goes with the pattern. -/
def fits (pattern : Pattern) (letters : List Char) : Bool :=
  (letters.foldl (fun reached c => advance c false pattern reached) (start true pattern)).getLastD false

/-- The pattern in which `%` stands for any letters and `_` for one, in either case. The letter after an escape
letter stands for itself; with none after it, nothing fits. -/
def ofLike (escape : Option Char) : List Char → Pattern
  | [] => []
  | c :: rest =>
    if escape = some c then
      match rest with
      | [] => [.within false []]
      | d :: more => .letter d true :: ofLike escape more
    else (if c = '%' then .any else if c = '_' then .one else .letter c true) :: ofLike escape rest

/-- The ranges up to the closing bracket, and what follows it. -/
def readRanges (prior : Option Char) : List Char → Option (List (Char × Char) × List Char)
  | [] => none
  | c :: rest =>
    if c = ']' then some ([], rest)
    else
      match rest with
      | [] => none
      | d :: more =>
        match prior with
        | some first =>
          if c = '-' ∧ d ≠ ']' then (readRanges none more).map fun (ranges, after) => ((first, d) :: ranges, after)
          else (readRanges (some c) (d :: more)).map fun (ranges, after) => ((c, c) :: ranges, after)
        | none => (readRanges (some c) (d :: more)).map fun (ranges, after) => ((c, c) :: ranges, after)

/-- The set after an opening bracket. A closing bracket that comes first belongs to it. -/
def readSet (letters : List Char) : Option (Mark × List Char) :=
  let negated := letters.head? = some '^'
  let letters := if negated then letters.tail else letters
  let first := if letters.head? = some ']' then [(']', ']')] else []
  let letters := if letters.head? = some ']' then letters.tail else letters
  (readRanges none letters).map fun (ranges, after) => (.within negated (first ++ ranges), after)

/-- The pattern in which `*` stands for any letters, `?` for one and brackets for one of a set; at most `fuel`
marks. With a bracket that never closes, nothing fits. -/
def ofGlob : Nat → List Char → Pattern
  | 0, _ => []
  | _ + 1, [] => []
  | fuel + 1, c :: rest =>
    if c = '[' then
      match readSet rest with
      | some (mark, after) => mark :: ofGlob fuel after
      | none => [.within false []]
    else (if c = '*' then .any else if c = '?' then .one else .letter c false) :: ofGlob fuel rest

end Pattern

end RecordMapper
