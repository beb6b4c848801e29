/-! Names of tables and columns, and condition keys: a column, or a table alias and a column. Names are spliced
into SQL text, so only ASCII letters, digits and underscores are let through. -/

namespace RecordMapper.Name

def isStart (c : Char) : Bool := ('A' ≤ c && c ≤ 'Z') || ('a' ≤ c && c ≤ 'z') || c = '_'

def isPart (c : Char) : Bool := isStart c || ('0' ≤ c && c ≤ '9')

def isIdentifier : List Char → Bool
  | [] => false
  | c :: rest => isStart c && rest.all isPart

/-- An identifier, or two of them with a point between. -/
def isKey (letters : List Char) : Bool :=
  isIdentifier (letters.takeWhile isPart) &&
    match letters.dropWhile isPart with
    | [] => true
    | c :: rest => c = '.' && isIdentifier rest

/-- Why a name or a key is refused. -/
inductive Fault where
  | emptyName
  | badName (name : String)
  | emptyKey
  | badKey (key : String)
  deriving DecidableEq

def Fault.message : Fault → String
  | .emptyName => "Identifier cannot be empty"
  | .badName name =>
    "Identifier '" ++ name ++ "' is invalid. Must start with a letter or underscore and contain only " ++
      "letters, digits, and underscores."
  | .emptyKey => "Condition key cannot be empty"
  | .badKey key => "Condition key '" ++ key ++ "' is invalid. Expected `column` or `alias.column`."

/-- Accepts a table or column name. -/
def check (name : String) : Except Fault Unit :=
  if name.isEmpty then .error .emptyName
  else if isIdentifier name.toList then .ok () else .error (.badName name)

theorem check_eq_ok {name : String} : check name = .ok () ↔ isIdentifier name.toList = true := by
  unfold check
  split
  next empty =>
    obtain rfl := String.isEmpty_iff.mp empty
    exact iff_of_false nofun nofun
  next =>
    split
    next letters => exact iff_of_true rfl letters
    next other => exact iff_of_false nofun other

/-- Accepts a condition key. -/
def checkKey (key : String) : Except Fault Unit :=
  if key.isEmpty then .error .emptyKey
  else if isKey key.toList then .ok () else .error (.badKey key)

/-- Whether a database takes two names for the same: ASCII letters are equal in either case. -/
def alike (a b : String) : Bool := a.toList.map Char.toLower = b.toList.map Char.toLower

end RecordMapper.Name
