import RecordMapper.Engine.Location.Address
import RecordMapper.Engine.Location.FileName

/-! Where a URL of the tables in memory leads: a database without a file, which can be one that is only read. -/

namespace RecordMapper

structure Location where
  readOnly : Bool := false
  deriving DecidableEq

namespace Location

/-- What the parameters of a URL ask for. -/
structure Wish where
  readOnly : Bool := false
  create : Bool := false
  inMemory : Bool := false
  immutable : Bool := false
  system : Option String := none

/-- A parameter changes what is asked for, if it is known. -/
def Wish.apply (wish : Wish) : String × String → Option Wish
  | ("mode", "ro") => some { wish with readOnly := true }
  | ("mode", "rw") => some wish
  | ("mode", "rwc") => some { wish with create := true }
  | ("mode", "memory") => some { wish with inMemory := true }
  | ("cache", "private") | ("cache", "shared") => some wish
  | ("immutable", "true") | ("immutable", "1") => some { wish with immutable := true }
  | ("immutable", "false") | ("immutable", "0") => some { wish with immutable := false }
  | ("vfs", name) => some { wish with system := some name }
  | _ => none

def Wish.access (wish : Wish) : Access where
  mode := if wish.readOnly then .read else if wish.create then .create else .write
  inMemory := wish.inMemory

/-- A text without something that it starts with, once or several times; at most `fuel` times. -/
def past (start : List Char) : Nat → List Char → List Char
  | 0, letters => letters
  | fuel + 1, letters => if start.isPrefixOf letters then past start fuel (letters.drop start.length) else letters

def scheme : List Char := "sqlite:".toList

/-- The name that a database is opened by, from its octets. Special wishes are handed on as options of the name, and
then nothing in the name itself is read as one. -/
def fileName? (wish : Wish) (octets : List UInt8) : Option FileName :=
  if wish.immutable || wish.system.isSome then
    some ⟨FileName.uncut octets, wish.system.toList.map fun name => ("vfs", FileName.uncut name.toUTF8.toList)⟩
  else if octets.contains 0 then none
  else (String.fromUTF8? ⟨octets.toArray⟩).bind FileName.read?

/-- The name in front of the parameters and what it asks for by itself. -/
def named? (letters : List Char) : Option (List UInt8 × Wish) :=
  if letters = ":memory:".toList then some ("file:memory".toUTF8.toList, { inMemory := true })
  else (String.fromUTF8? ⟨(Octets.ofEscaped letters).toArray⟩).map fun name => (name.toUTF8.toList, {})

/-- Where a URL leads, if there is a database. -/
def ofUrl? (url : String) : Option Location := do
  let address ← Address.normal? scheme url
  let target := past scheme address.length (past (scheme ++ ['/', '/']) address.length address)
  let (octets, wish) ← named? (target.takeWhile (· ≠ '?'))
  let wish ← (Octets.readForm (target.dropWhile (· ≠ '?')).tail).foldlM Wish.apply wish
  let access ← (← fileName? wish octets).access? wish.access
  return ⟨access.mode = .read⟩

end Location

end RecordMapper
