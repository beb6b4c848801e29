/-! Lengths of time in nanoseconds and their text: the largest unit that is not zero, with as many decimals as
are needed to be exact. -/

namespace RecordMapper

structure Duration where
  nanoseconds : Nat
  deriving DecidableEq, Inhabited

namespace Duration

def ofMilliseconds (n : Nat) : Duration := ⟨n * 1000000⟩

def milliseconds (d : Duration) : Nat := d.nanoseconds / 1000000

/-- The last `width` decimal digits of a number. -/
def lastDigits : Nat → Nat → List Char
  | 0, _ => []
  | width + 1, n => lastDigits width (n / 10) ++ [Char.ofNat (48 + n % 10)]

/-- Decimals after a point, without zeros at the end; nothing if all are zero. -/
def decimals (width n : Nat) : List Char :=
  match ((lastDigits width n).reverse.dropWhile (· = '0')).reverse with
  | [] => []
  | digits => '.' :: digits

/-- A count of nanoseconds in a unit of `10 ^ width` of them. -/
def inUnit (width n : Nat) (unit : String) : String :=
  String.ofList (Nat.toDigits 10 (n / Nat.pow 10 width) ++ decimals width (n % Nat.pow 10 width)) ++ unit

def text (d : Duration) : String :=
  let n := d.nanoseconds
  if 1000000000 ≤ n then inUnit 9 n "s"
  else if 1000000 ≤ n then inUnit 6 n "ms"
  else if 1000 ≤ n then inUnit 3 n "µs"
  else inUnit 0 n "ns"

end Duration

end RecordMapper
