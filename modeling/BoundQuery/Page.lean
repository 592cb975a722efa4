import BoundQuery.Word

/-!
Which rows a numbered page holds. Page numbers and counts are words of 64 bits; a product that does
not fit one lies past every total.
-/

set_option autoImplicit false

namespace BoundQuery

def ceilDiv (dividend divisor : Nat) : Nat :=
  dividend / divisor + (if dividend % divisor = 0 then 0 else 1)

/-- Positions are counted from one; an empty page has both at zero. -/
structure PageInfo where
  page : Nat
  perPage : Nat
  total : Nat
  totalPages : Nat
  hasMore : Bool
  first : Nat
  last : Nat

namespace PageInfo

def bounds (page perPage total : Nat) : Nat × Nat :=
  match checkedMul (page - 1) perPage with
  | some skipped =>
      if skipped < total then (skipped + 1, min (saturatingAdd skipped perPage) total) else (0, 0)
  | none => (0, 0)

def make (page perPage total : Nat) : PageInfo :=
  { page := page
    perPage := perPage
    total := total
    totalPages := ceilDiv total perPage
    hasMore := page < ceilDiv total perPage
    first := (bounds page perPage total).1
    last := (bounds page perPage total).2 }

def offset (info : PageInfo) : Nat :=
  saturatingMul (info.page - 1) info.perPage

end PageInfo

end BoundQuery
