import RecordMapper.Relational.Datum.Number
import RecordMapper.Text.Search

/-! URLs in normal form. Escapes are left as they are: a text that is written with an escape and one that is not
name the same thing. -/

namespace RecordMapper.Address

/-- Controls and blanks, which do not count at the ends. -/
def isEdge (c : Char) : Bool := c.toNat ≤ 32

/-- A text without what does not count in it. -/
def cleaned (letters : List Char) : List Char :=
  ((letters.dropWhile isEdge).reverse.dropWhile isEdge).reverse.filter fun c =>
    c.toNat ≠ 9 && c.toNat ≠ 10 && c.toNat ≠ 13

/-- Letters at which an authority ends. -/
def endsAuthority (c : Char) : Bool := c = '/' || c = '?' || c = '#'

/-- Letters that no host has. -/
def isForbidden (c : Char) : Bool := "\x00\t\n\x0d #/:<>?@[\\]^|".toList.contains c

/-- A number below 256 without zeros in front. -/
def isSmallNumber (letters : List Char) : Bool :=
  letters.all Char.isDigit && !letters.isEmpty && letters.length ≤ 3 &&
    (letters.length = 1 || letters.head? ≠ some '0') && Numeral.value letters ≤ 255

/-- How many numbers of 16 bits the parts of an address stand for. The last part may be four small numbers. -/
def groups? : Bool → List (List Char) → Option Nat
  | _, [] => some 0
  | small, part :: rest =>
    if !part.isEmpty && part.length ≤ 4 && part.all fun c => (Text.hexValue? c).isSome then
      (groups? small rest).map (· + 1)
    else if small && rest.isEmpty && (part.splitOn '.').length = 4 && (part.splitOn '.').all isSmallNumber then some 2
    else none

def partsOf (letters : List Char) : List (List Char) := if letters.isEmpty then [] else letters.splitOn ':'

/-- Whether a text is an address of 128 bits. Two colons stand for one or more numbers that are zero. -/
def isLongAddress (letters : List Char) : Bool :=
  match Text.place? [':', ':'] letters with
  | none => groups? true (partsOf letters) = some 8
  | some place =>
    match groups? false (partsOf (letters.take place)), groups? true (partsOf (letters.drop (place + 2))) with
    | some before, some after => before + after < 8
    | _, _ => false

def isHost (letters : List Char) : Bool :=
  match letters with
  | '[' :: rest => rest.getLast? = some ']' && isLongAddress rest.dropLast
  | _ => !letters.any isForbidden

/-- A host at the start, which ends at a colon that is not in brackets, with what follows it. -/
def takeHost : Bool → List Char → List Char × List Char
  | _, [] => ([], [])
  | inside, c :: rest =>
    if c = ':' && !inside then ([], c :: rest)
    else
      let (host, after) := takeHost (if c = '[' then true else if c = ']' then false else inside) rest
      (c :: host, after)

/-- A port after its colon, which may be missing, with the path that follows it. A backslash ends it. -/
def port? (letters : List Char) : Option (List Char) :=
  let digits := letters.takeWhile Char.isDigit
  let rest := letters.dropWhile Char.isDigit
  let path := match rest with
    | '\\' :: _ => '/' :: rest
    | _ => []
  if (rest.isEmpty || !path.isEmpty) && Numeral.value digits ≤ 65535 then
    some ((if digits.isEmpty then [] else ':' :: (toString (Numeral.value digits)).toList) ++ path)
  else none

/-- A host with its port. A port needs a host. -/
def hostAndPort? (letters : List Char) : Option (List Char) :=
  let (host, after) := takeHost false letters
  if isHost host then
    match after with
    | [] => some host
    | _ :: port => if host.isEmpty then none else (port? port).map (host ++ ·)
  else none

/-- The user before the last at sign. A password that is missing loses its colon, and a user without any letter
its at sign. -/
def user (letters : List Char) : List Char :=
  let name := letters.takeWhile (· ≠ ':')
  let password := (letters.dropWhile (· ≠ ':')).tail
  (name ++ if password.isEmpty then [] else ':' :: password) ++ if name.isEmpty && password.isEmpty then [] else ['@']

/-- An authority, and whether nothing follows it. A user needs a host. -/
def authority? (isLast : Bool) (letters : List Char) : Option (List Char) :=
  if letters.contains '@' then
    let place := (letters.reverse.takeWhile (· ≠ '@')).reverse
    let given := letters.take (letters.length - place.length - 1)
    if place.isEmpty && (!(user given).isEmpty || given.isEmpty && !isLast) then none
    else (hostAndPort? place).map (user given ++ ·)
  else hostAndPort? letters

/-- A part of a path that stands for its place itself. -/
def isHere (part : List Char) : Bool := [".", "%2e"].contains (String.ofList (part.map Char.toLower))

/-- A part of a path that stands for the place above. -/
def isAbove (part : List Char) : Bool :=
  ["..", ".%2e", "%2e.", "%2e%2e"].contains (String.ofList (part.map Char.toLower))

/-- The parts of a path without those that only lead around; `done` are the parts so far, the last one first. -/
def walk : List (List Char) → List (List Char) → List (List Char)
  | done, [] => done.reverse
  | done, [part] =>
    if isAbove part then ([] :: done.tail).reverse
    else if isHere part then ([] :: done).reverse
    else (part :: done).reverse
  | done, part :: rest =>
    if isAbove part then walk done.tail rest
    else if isHere part then walk done rest
    else walk (part :: done) rest

/-- A path that starts with a slash. -/
def path (letters : List Char) : List Char :=
  (walk [] (letters.tail.splitOn '/')).flatMap fun part => '/' :: part

/-- What follows the scheme and its colon. A path that starts with two slashes is marked, so that it is not read as
an authority. -/
def afterScheme? (letters : List Char) : Option (List Char) :=
  let ends (c : Char) : Bool := c = '?' || c = '#'
  match letters with
  | '/' :: '/' :: rest =>
    let after := rest.dropWhile fun c => !endsAuthority c
    (authority? after.isEmpty (rest.takeWhile fun c => !endsAuthority c)).map fun authority =>
      let way := after.takeWhile fun c => !ends c
      ['/', '/'] ++ authority ++ (if way.isEmpty then [] else path way) ++ after.dropWhile fun c => !ends c
  | '/' :: _ =>
    let way := path (letters.takeWhile fun c => !ends c)
    let marked := if ['/', '/'].isPrefixOf way then ['/', '.'] ++ way else way
    some (marked ++ letters.dropWhile fun c => !ends c)
  | _ => some letters

/-- The normal form of a URL of a scheme. -/
def normal? (scheme : List Char) (url : String) : Option (List Char) :=
  let letters := cleaned url.toList
  if (letters.take scheme.length).map Char.toLower = scheme then
    (afterScheme? (letters.drop scheme.length)).map (scheme ++ ·)
  else none

end RecordMapper.Address
