import RecordMapper.Engine.Location.Octets

/-! Names of databases. A name that starts with `file:` is taken apart into an authority, a path and options that
can change how the database is opened. -/

namespace RecordMapper

/-- How a database is opened, each way allowing more than the one before it. -/
inductive AccessMode where
  | memory
  | read
  | write
  | create
  deriving DecidableEq

namespace AccessMode

def rank : AccessMode → Nat
  | memory => 0
  | read => 1
  | write => 2
  | create => 3

def ofWord? : String → Option AccessMode
  | "ro" => some read
  | "rw" => some write
  | "rwc" => some create
  | "memory" => some memory
  | _ => none

end AccessMode

structure Access where
  mode : AccessMode := .write
  /-- Whether the database is kept in memory whatever its name is. -/
  inMemory : Bool := false
  /-- The name of the system of files that is asked for. -/
  system : Option String := none
  deriving DecidableEq

structure FileName where
  path : String
  options : List (String × String) := []
  deriving DecidableEq

namespace Access

/-- An option changes the access. A mode must not allow more than the access does, unless the database is in memory. -/
def apply (access : Access) (option : String × String) : Option Access :=
  match option with
  | ("vfs", name) => some { access with system := some name }
  | ("cache", word) => if word = "shared" ∨ word = "private" then some access else none
  | ("mode", word) =>
    match AccessMode.ofWord? word with
    | none => none
    | some mode =>
      if !access.inMemory && access.mode.rank < mode.rank then none
      else some { access with mode := mode, inMemory := mode = .memory }
  | _ => some access

/-- The system of files that keeps its files in memory. -/
def memorySystem : String := "memdb"

def systems : List String := ["unix", "unix-none", "unix-dotfile", "unix-excl", memorySystem]

end Access

namespace FileName

/-- A text up to its first zero. -/
def uncut (octets : List UInt8) : String := Text.readLossily (octets.takeWhile (· ≠ 0))

def readPart (letters : List Char) : String := uncut (Octets.ofEscaped letters)

/-- What follows an authority, which must be empty or this machine. -/
def afterAuthority? : List Char → Option (List Char)
  | '/' :: '/' :: rest =>
    let authority := String.ofList (rest.takeWhile (· ≠ '/'))
    if authority = "" ∨ authority = "localhost" then some (rest.dropWhile (· ≠ '/')) else none
  | letters => some letters

/-- Options that have a name. -/
def readOptions (letters : List Char) : List (String × String) :=
  (letters.splitOn '&').filterMap fun part =>
    let name := readPart (part.takeWhile (· ≠ '='))
    if name.isEmpty then none else some (name, readPart (part.dropWhile (· ≠ '=')).tail)

/-- Takes a name apart. -/
def read? (name : String) : Option FileName :=
  let mark := "file:".toList
  if mark.isPrefixOf name.toList then
    (afterAuthority? (name.toList.drop mark.length)).map fun letters =>
      let letters := letters.takeWhile (· ≠ '#')
      ⟨readPart (letters.takeWhile (· ≠ '?')), readOptions (letters.dropWhile (· ≠ '?')).tail⟩
  else some ⟨name, []⟩

/-- How a database is opened in the end, if that needs no file. -/
def access? (name : FileName) (access : Access) : Option Access := do
  let access ← name.options.foldlM Access.apply access
  if access.system.any fun system => !Access.systems.contains system then none
  else if name.path = "" ∨ name.path = ":memory:" ∨ access.inMemory ∨ access.system = some Access.memorySystem then
    some access
  else none

end FileName

end RecordMapper
