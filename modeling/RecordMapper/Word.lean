/-! Bounds of machine words, as plain numerals, so that comparisons with them compute. -/

namespace RecordMapper.Word

/-- One more than the greatest signed integer of 64 bits; its negative is the least one. -/
def signedBound : Nat := 9223372036854775808

/-- Greatest signed integer of 64 bits. -/
def greatestSigned : Nat := signedBound - 1

/-- Greatest unsigned integer of 64 bits. -/
def greatest : Nat := UInt64.size - 1

/-- Whether an integer is a signed one of 64 bits. -/
def fitsSigned (n : Int) : Bool := -(signedBound : Int) ≤ n && n < signedBound

end RecordMapper.Word
