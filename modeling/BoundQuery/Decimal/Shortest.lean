import BoundQuery.Decimal.Binary

/-!
The fewest decimal digits that read back as the same floating-point number, and of those the nearest
to it. All arithmetic is exact.
-/

set_option autoImplicit false

namespace BoundQuery.Decimal

structure Digits where
  coefficient : Nat
  exponent : Int

def digitCount (number : Nat) : Nat :=
  if number = 0 then 0 else (Nat.toDigits 10 number).length

def leadingExponent (numerator denominator : Nat) : Int :=
  if denominator ≤ numerator then (digitCount (numerator / denominator) : Int) - 1
  else -(digitCount ((denominator - 1) / numerator) : Int)

/-- The reals between `low` and `high` over a common denominator round to `middle`; both ends belong
to them when `closed` holds. -/
structure Interval where
  low : Nat
  middle : Nat
  high : Nat
  denominator : Nat
  closed : Bool

/-- Ends lie half way to the neighbours, which needs two more binary places. Rounding to even makes
them belong to an even mantissa. -/
def Interval.around (value : Binary) : Interval :=
  let unit := scaled 1 (value.exponent - 2)
  { low := (4 * value.mantissa - (if value.narrowBelow then 1 else 2)) * unit.1
    middle := 4 * value.mantissa * unit.1
    high := (4 * value.mantissa + 2) * unit.1
    denominator := unit.2
    closed := value.mantissa % 2 == 0 }

def Interval.holds (interval : Interval) (numerator denominator : Nat) : Bool :=
  let point := numerator * interval.denominator
  let low := interval.low * denominator
  let high := interval.high * denominator
  if interval.closed then low ≤ point && point ≤ high else low < point && point < high

/-- The point of the grid `10 ^ exponent` that reads back and is nearest, a tie going to the even
coefficient. -/
def Interval.onGrid? (interval : Interval) (exponent : Int) : Option Nat :=
  let grid : Nat × Nat :=
    if 0 ≤ exponent then (Nat.pow 10 exponent.toNat, 1) else (1, Nat.pow 10 (-exponent).toNat)
  let numerator := interval.middle * grid.2
  let denominator := interval.denominator * grid.1
  let below := numerator / denominator
  let remainder := numerator % denominator
  let belowHolds := below != 0 && interval.holds (below * grid.1) grid.2
  let aboveHolds := interval.holds ((below + 1) * grid.1) grid.2
  if belowHolds && aboveHolds then
    if 2 * remainder < denominator || (2 * remainder == denominator && below % 2 == 0) then
      some below
    else some (below + 1)
  else if belowHolds then some below
  else if aboveHolds then some (below + 1)
  else none

/-- Tries ever finer grids. -/
def Interval.firstGrid (interval : Interval) : Nat → Int → Digits
  | 0, exponent => ⟨0, exponent⟩
  | tries + 1, exponent =>
      match interval.onGrid? exponent with
      | some coefficient => ⟨coefficient, exponent⟩
      | none => interval.firstGrid tries (exponent - 1)

/-- Seventeen digits always suffice. -/
def shortest (value : Binary) : Digits :=
  if value.mantissa = 0 then ⟨0, 0⟩
  else
    let interval := Interval.around value
    interval.firstGrid 18 (leadingExponent interval.middle interval.denominator + 1)

end BoundQuery.Decimal
