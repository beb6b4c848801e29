/-! Decimal numerals of bounded unsigned numbers, as settings write them. -/

namespace RecordMapper.Text

/-- What is wrong with a text that should be an unsigned numeral. -/
inductive NumeralFault where
  | empty
  | notADigit
  | tooLarge
  deriving DecidableEq

def NumeralFault.message : NumeralFault → String
  | .empty => "cannot parse integer from empty string"
  | .notADigit => "invalid digit found in string"
  | .tooLarge => "number too large to fit in target type"

/-- The value of a decimal digit. Only the ten ASCII digits count. -/
def digit? (c : Char) : Option Nat :=
  if '0' ≤ c ∧ c ≤ '9' then some (c.toNat - '0'.toNat) else none

/-- Reads digits from the left; the first fault met decides. -/
def readDigits (greatest value : Nat) : List Char → Except NumeralFault Nat
  | [] => .ok value
  | c :: rest =>
    match digit? c with
    | none => .error .notADigit
    | some digit =>
      let next := value * 10 + digit
      if next ≤ greatest then readDigits greatest next rest else .error .tooLarge

/-- An unsigned numeral no greater than `greatest`. One leading `+` is allowed, but not on its own. -/
def readUnsigned (greatest : Nat) (text : String) : Except NumeralFault Nat :=
  match text.toList with
  | [] => .error .empty
  | ['+'] => .error .notADigit
  | '+' :: digits => readDigits greatest 0 digits
  | digits => readDigits greatest 0 digits

/-- The value of a hexadecimal digit, in either case. -/
def hexValue? (c : Char) : Option Nat :=
  if '0' ≤ c ∧ c ≤ '9' then some (c.toNat - 48)
  else if 'a' ≤ c ∧ c ≤ 'f' then some (c.toNat - 87)
  else if 'A' ≤ c ∧ c ≤ 'F' then some (c.toNat - 55)
  else none

/-- Lower-case hexadecimal digit of a number below sixteen. -/
def hexDigit (n : Nat) : Char := if n < 10 then Char.ofNat (48 + n) else Char.ofNat (87 + n)

/-- The last `width` hexadecimal digits of a number. -/
def hexPadded : Nat → Nat → List Char
  | 0, _ => []
  | width + 1, n => hexPadded width (n / 16) ++ [hexDigit (n % 16)]

end RecordMapper.Text
