import RecordMapper.Relational.Affinity
import RecordMapper.Relational.Datum.Arithmetic
import RecordMapper.Relational.Json.Function

/-! Summaries of the data of a group of rows. NULL is left out of all of them. Integers are added exactly; once a
float or a sum beyond 64 bits turns up, a float is added to with the part that rounding loses kept beside it. -/

namespace RecordMapper

inductive Summary where
  | count
  | least
  | greatest
  | sum
  /-- The sum as a float, zero for no data. -/
  | total
  | mean
  /-- Texts, with a separator between. -/
  | joined
  /-- A list as a document. -/
  | list
  /-- Names and values as a document. -/
  | fields
  deriving DecidableEq

/-- A sum so far. -/
structure Sum where
  /-- The integers, as long as there is nothing else. -/
  exact : Int := 0
  /-- The float and what has been lost beside it, once they are in use. -/
  rounded : Option (Double × Double) := none
  /-- Whether integers alone have gone beyond 64 bits. -/
  overflown : Bool := false
  /-- How many data there are. -/
  count : Int := 0

namespace Sum

/-- Adds a float to a rounded sum; the error of the addition is gathered apart. -/
def step (x : Double) : Double × Double → Double × Double
  | (sum, lost) =>
    let next := sum.plus x
    let error :=
      if x.magnitude < sum.magnitude then (sum.minus next).plus x else (x.minus next).plus sum
    (next, lost.plus error)

/-- An integer as a float that is no greater, in two parts if it has more bits than a float. -/
def stepInt (n : Int) (sum : Double × Double) : Double × Double :=
  if n.natAbs < 4503599627370496 then step (Double.ofInt n) sum
  else
    let low := Int.tmod n 16384
    step (Double.ofInt low) (step (Double.ofInt (n - low)) sum)

/-- The rounded sum that an exact one becomes. -/
def start (n : Int) : Double × Double :=
  if n.natAbs < 4503599627370496 then (Double.ofInt n, .zero)
  else
    let low := Int.tmod n 16384
    (Double.ofInt (n - low), Double.ofInt low)

/-- Adds a datum that is not NULL. -/
def add (sum : Sum) (datum : Datum) : Sum :=
  let sum := { sum with count := sum.count + 1 }
  match sum.rounded, datum.numberIfWhole with
  | none, .int n =>
    let next := sum.exact + n.toInt
    if Word.fitsSigned next then { sum with exact := next }
    else { sum with rounded := some (stepInt n.toInt (start sum.exact)), overflown := true }
  | none, _ => { sum with rounded := some (step datum.toDouble (start sum.exact)) }
  | some rounded, .int n => { sum with rounded := some (stepInt n.toInt rounded) }
  | some rounded, _ => { sum with rounded := some (step datum.toDouble rounded), overflown := false }

/-- Takes a datum away again that has been added. -/
def remove (sum : Sum) (datum : Datum) : Sum :=
  let sum := { sum with count := sum.count - 1 }
  match sum.rounded, datum.numberIfWhole with
  | none, number => { sum with exact := sum.exact - number.toInt.toInt }
  | some rounded, .int n => { sum with rounded := some (stepInt (-n.toInt) rounded) }
  | some rounded, _ => { sum with rounded := some (step datum.toDouble.negated rounded) }

def ofList (data : List Datum) : Sum := data.foldl add {}

/-- The sum as a float. -/
def toDouble (sum : Sum) : Double :=
  match sum.rounded with
  | none => Double.ofInt sum.exact
  | some (rounded, lost) => if lost.isFinite then rounded.plus lost else rounded

/-- The sum as a datum; there is none of no data. -/
def datum (sum : Sum) : Except Fault Datum :=
  if sum.count ≤ 0 then .ok .null
  else if sum.overflown then .error .overflow
  else if sum.rounded.isNone then .ok (.int (Int64.ofInt sum.exact))
  else .ok (.ofDouble sum.toDouble)

def mean (sum : Sum) : Datum :=
  if sum.count ≤ 0 then .null else .ofDouble (sum.toDouble.dividedBy (.ofInt sum.count))

end Sum

namespace Summary

/-- What is summarized of each row, without rows whose first datum equals that of an earlier one. -/
def distinct (collation : Collation) (given : List (List Datum)) : List (List Datum) :=
  given.foldl (fun seen data =>
    if seen.any fun other => collation.order (other.headD .null) (data.headD .null) = .eq then seen
    else seen ++ [data]) []

/-- The first of the data that no other one comes before, in the given order. -/
def first (collation : Collation) (before : Ordering) : List Datum → Datum
  | [] => .null
  | datum :: rest =>
    rest.foldl (fun best other => if collation.order other best = before then other else best) datum

/-- Texts of data, before each but the first the separator that belongs to it. -/
def join : List (Datum × Datum) → Datum
  | [] => .text ""
  | (datum, _) :: rest => .ofOctets (datum.octets ++ rest.flatMap fun (other, separator) => separator.octets ++ other.octets)

/-- The summary as it follows from a sum, if it does. -/
def ofSum? (sum : Sum) : Summary → Option (Except Fault Datum)
  | .sum => some sum.datum
  | .total => some (.ok (.ofDouble sum.toDouble))
  | .mean => some (.ok sum.mean)
  | _ => none

/-- Names and values of a document. -/
def entries (given : List (List Datum)) : Except Fault (List (Spelled × JsonTree)) :=
  given.mapM fun data => do
    return (⟨(data.headD .null).letters, .plain⟩, ← JsonTree.ofDatum (data.getD 1 .null))

/-- The summary of what is given of each row: a datum, and what belongs to it. -/
def apply (which : Summary) (collation : Collation) (given : List (List Datum)) : Except Fault Datum :=
  let present := given.filter fun data => !(data.headD .null).isNull
  let data := present.map fun data => (data.headD .null).plain
  let sum := Sum.ofList data
  match which with
  | .count =>
    .ok (.int (Int64.ofNat (given.filter fun data => !data.head?.any Datum.isNull).length))
  | .least => .ok (first collation .lt data)
  | .greatest => .ok (first collation .gt data)
  | .sum => sum.datum
  | .total => .ok (.ofDouble sum.toDouble)
  | .mean => .ok sum.mean
  | .joined =>
    .ok (if data.isEmpty then .null
      else join (present.map fun data => (data.headD .null, data.getD 1 (.text ","))))
  | .list => return (JsonTree.list (← given.mapM fun data => JsonTree.ofDatum (data.headD .null))).document
  | .fields => return (JsonTree.fields (← entries given)).document

/-- Names of summaries with the least and the greatest number of their arguments. -/
def table : List (String × Nat × Nat × Summary) :=
  [("AVG", 1, 1, .mean), ("COUNT", 0, 1, .count), ("GROUP_CONCAT", 1, 2, .joined), ("JSON_GROUP_ARRAY", 1, 1, .list),
   ("JSON_GROUP_OBJECT", 2, 2, .fields), ("MAX", 1, 1, .greatest), ("MIN", 1, 1, .least), ("STRING_AGG", 2, 2, .joined),
   ("SUM", 1, 1, .sum), ("TOTAL", 1, 1, .total)]

/-- Whether a summary has the name, which is in capitals. -/
def isNamed (name : String) : Bool := table.any fun entry => entry.1 = name

/-- The summary of a name in capitals that takes so many arguments. -/
def find? (name : String) (count : Nat) : Option Summary :=
  (table.find? fun (given, fewest, most, _) => given = name && fewest ≤ count && count ≤ most).map
    fun (_, _, _, summary) => summary

end Summary

end RecordMapper
