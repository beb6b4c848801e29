/-! Why a statement fails: a text and the number of its class. -/

namespace RecordMapper

structure Fault where
  message : String
  code : Nat := 1
  deriving DecidableEq, Inhabited

namespace Fault

instance : Coe String Fault := ⟨fun message => { message }⟩

/-- Fails with a message alone. -/
def refuse (message : String) : Except Fault α := .error { message }

/-- What is reported of a fault. -/
def text (fault : Fault) : String :=
  "error returned from database: (code: " ++ toString fault.code ++ ") " ++ fault.message

def mismatch : Fault := ⟨"datatype mismatch", 20⟩

def tooBig : Fault := ⟨"string or blob too big", 18⟩

def overflow : Fault := "integer overflow"

/-- The greatest height of an expression as a tree. -/
def greatestHeight : Nat := 1000

def tooHigh : Fault := "Expression tree is too large (maximum depth " ++ toString greatestHeight ++ ")"

def readOnly : Fault := ⟨"attempt to write a readonly database", 8⟩

def notNull (table column : String) : Fault := ⟨"NOT NULL constraint failed: " ++ table ++ "." ++ column, 1299⟩

/-- Two rows share the key of their table. -/
def repeatedKey (table column : String) : Fault := ⟨"UNIQUE constraint failed: " ++ table ++ "." ++ column, 1555⟩

/-- Two rows share a number that is no column of their table. -/
def repeatedNumber (table : String) : Fault := ⟨"UNIQUE constraint failed: " ++ table ++ ".rowid", 2579⟩

end Fault

end RecordMapper
