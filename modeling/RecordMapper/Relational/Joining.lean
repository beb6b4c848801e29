import RecordMapper.Relational.Datum.Text

/-! A text that is put together from others with separators between, and from which the first of them can be taken
away again. What goes with a text is counted in octets: those of the text, and those of the separator after it. The
length of the first separator stands for all as long as they have the same; once nothing is left the next text is a
first one again, and it has no separator. -/

namespace RecordMapper

structure Joining where
  octets : List UInt8 := []
  /-- Whether the next text gets a separator. -/
  started : Bool := false
  /-- How many texts there are. -/
  count : Nat := 0
  firstGap : Nat := 0
  /-- The lengths of the separators, once they differ. -/
  gaps : Option (List Nat) := none

namespace Joining

/-- The separator that comes with a datum. -/
def separator (data : List Datum) : List UInt8 := (data.getD 1 (.text ",")).octets

/-- Adds what is given of a row: a datum, and perhaps a separator. -/
def add (joining : Joining) (data : List Datum) : Joining :=
  let own := (data.headD .null).octets
  let between := separator data
  if joining.started then
    let differs := joining.gaps.isSome || between.length ≠ joining.firstGap
    let known := joining.gaps.getD (List.replicate (joining.count - 1) joining.firstGap)
    { joining with
      octets := joining.octets ++ between ++ own
      count := joining.count + 1
      gaps := if differs then some (known.take (joining.count - 1) ++ [between.length]) else none }
  else
    { joining with octets := own, started := true, count := joining.count + 1, firstGap := between.length }

/-- Takes away the first text. -/
def remove (joining : Joining) (data : List Datum) : Joining :=
  let count := joining.count - 1
  let gap := match joining.gaps with
    | some gaps => if count = 0 then 0 else gaps.headD 0
    | none => joining.firstGap
  let octets := joining.octets.drop ((data.headD .null).octets.length + gap)
  if octets.isEmpty then { count, firstGap := joining.firstGap }
  else { joining with octets, count, gaps := joining.gaps.map List.tail }

/-- The text, or NULL if it is empty. -/
def datum (joining : Joining) : Datum :=
  if joining.octets.isEmpty then .null else .ofOctets joining.octets

end Joining

end RecordMapper
