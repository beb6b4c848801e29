import RecordMapper.Word

/-! Pages of a result: what a condition asks for, and the rows to skip and keep that follow from it. Numbers
are unsigned 64-bit numbers; a product that does not fit stays at the greatest one. -/

namespace RecordMapper

/-- A page number and size, or a number of rows to skip and to keep. `total` and `pages` are known once the
matching rows have been counted. -/
structure Paging where
  number : UInt64 := 0
  size : UInt64 := 0
  total : Option UInt64 := none
  pages : Option UInt64 := none
  isOffset : Bool := false
  deriving DecidableEq, Inhabited

/-- Rows to skip and rows to keep in one read. -/
structure PagePlan where
  offset : UInt64
  count : UInt64
  deriving DecidableEq, Inhabited

namespace Paging

/-- Page size if a page is asked for without one. -/
def defaultSize : UInt64 := 10

/-- The product, or the greatest number if it is beyond. -/
def saturatingMul (a b : UInt64) : UInt64 := UInt64.ofNat (min (a.toNat * b.toNat) Word.greatest)

/-- The quotient rounded up. -/
def ceilingQuotient (a b : UInt64) : UInt64 := UInt64.ofNat ((a.toNat + b.toNat - 1) / b.toNat)

/-- Brings the number of pages in line with total and size. -/
def refresh (paging : Paging) : Paging :=
  { paging with
    pages := match paging.total with
      | some total => if 0 < paging.size then some (ceilingQuotient total paging.size) else none
      | none => none }

/-- Asks for a page by number, counted from one. A known total stays. -/
def page (number size : UInt64) (paging : Paging) : Paging :=
  refresh { paging with number := number, size := size, isOffset := false }

/-- Asks for at most `count` rows after the first `start`. -/
def offset (start count : UInt64) (paging : Paging) : Paging :=
  refresh { paging with number := start, size := count, isOffset := true }

def setTotal (total : UInt64) (paging : Paging) : Paging := refresh { paging with total := some total }

/-- The rows to read; none if neither number nor size is given. A missing size is the default one, and a
missing page number is the first page. -/
def plan? (paging : Paging) : Option PagePlan :=
  if paging.number = 0 ∧ paging.size = 0 then none
  else
    let count := if paging.size = 0 then defaultSize else paging.size
    let offset :=
      if paging.isOffset then paging.number
      else saturatingMul ((if paging.number = 0 then 1 else paging.number) - 1) count
    some ⟨offset, count⟩

end Paging

/-- Whether the page starts inside so many rows. -/
def PagePlan.within (plan : PagePlan) (total : UInt64) : Bool := 0 < total && plan.offset < total

end RecordMapper
