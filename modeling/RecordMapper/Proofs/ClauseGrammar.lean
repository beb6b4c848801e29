import RecordMapper.Proofs.PieceLexemes

/-! The grammar of a WHERE clause. OR joins what AND has joined, AND joins tests and brackets, and the AND of a
BETWEEN belongs to it. A clause is read as branches, of which one has to hold, each a list of formulas that have
to hold together. -/

namespace RecordMapper.Clause

def readParts : List Lexeme → Option (List String × List Lexeme)
  | .name first :: .point :: rest => (readParts rest).map fun (others, rest) => (first :: others, rest)
  | .name first :: rest => some ([first], rest)
  | _ => none

/-- Values with commas between, up to the bracket after them. -/
def readValues : List Lexeme → Option (List Value × List Lexeme)
  | .value first :: .comma :: rest => (readValues rest).map fun (others, rest) => (first :: others, rest)
  | .value first :: .closing :: rest => some ([first], rest)
  | _ => none

/-- A test that can stand after NOT. -/
def readRange (column : ColumnRef) (negated : Bool) : List Lexeme → Option (Formula × List Lexeme)
  | .word .between :: .value low :: .word .and :: .value high :: rest =>
    some (.between column negated low high, rest)
  | .word .among :: .opening :: rest =>
    (readValues rest).map fun (values, rest) => (.among column negated values, rest)
  | .word .like :: .value pattern :: rest => some (.like column negated pattern, rest)
  | _ => none

def readTest (column : ColumnRef) : List Lexeme → Option (Formula × List Lexeme)
  | .relation relation :: .value value :: rest => some (.versus column relation value, rest)
  | .word .is :: .word .null :: rest => some (.null column false, rest)
  | .word .is :: .word .not :: .word .null :: rest => some (.null column true, rest)
  | .word .not :: rest => readRange column true rest
  | rest => readRange column false rest

/-- Two numbers that are compared, or a test of a column. -/
def readComparison : List Lexeme → Option (Formula × List Lexeme)
  | .digit left :: .relation .eq :: .digit right :: rest => some (.constant (left = right), rest)
  | lexemes => (readParts lexemes).bind fun (parts, rest) => readTest ⟨parts⟩ rest

mutual
/-- A comparison or a bracket. -/
def readOne : Nat → List Lexeme → Option (Formula × List Lexeme)
  | 0, _ => none
  | fuel + 1, .opening :: rest =>
    match readAny fuel rest with
    | some (branches, .closing :: rest) => some (.any branches, rest)
    | _ => none
  | _ + 1, lexemes => readComparison lexemes

def readAll : Nat → List Lexeme → Option (List Formula × List Lexeme)
  | 0, _ => none
  | fuel + 1, lexemes =>
    (readOne fuel lexemes).bind fun (first, rest) =>
      (readMoreAll fuel rest).map fun (others, rest) => (first :: others, rest)

def readMoreAll : Nat → List Lexeme → Option (List Formula × List Lexeme)
  | 0, _ => none
  | fuel + 1, .word .and :: rest => readAll fuel rest
  | _ + 1, rest => some ([], rest)

def readAny : Nat → List Lexeme → Option (List (List Formula) × List Lexeme)
  | 0, _ => none
  | fuel + 1, lexemes =>
    (readAll fuel lexemes).bind fun (first, rest) =>
      (readMoreAny fuel rest).map fun (others, rest) => (first :: others, rest)

def readMoreAny : Nat → List Lexeme → Option (List (List Formula) × List Lexeme)
  | 0, _ => none
  | fuel + 1, .word .or :: rest => readAny fuel rest
  | _ + 1, rest => some ([], rest)
end

/-- All lexemes of a clause. Nothing is entered more than four times for one lexeme, so the fuel is enough. -/
def readClause (lexemes : List Lexeme) : Option (List (List Formula)) :=
  match readAny (4 * lexemes.length + 3) lexemes with
  | some (branches, []) => some branches
  | _ => none

/-- The clause of a text whose placeholders stand for the parameters, from left to right. -/
def read? (known : Known) (params : List Value) (text : String) : Option (List (List Formula)) :=
  ((lexemes? known text.toList).bind (bind params)).bind readClause

end RecordMapper.Clause
