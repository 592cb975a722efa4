/-!
Floating-point numbers taken apart: every finite one is an integer times a power of two.
-/

set_option autoImplicit false

namespace BoundQuery.Decimal

/-- The value `±mantissa · 2 ^ exponent`. The neighbour below is only half as far as the one above
when `narrowBelow` holds. -/
structure Binary where
  negative : Bool
  mantissa : Nat
  exponent : Int
  narrowBelow : Bool

inductive Decoded where
  | nan
  | infinite (negative : Bool)
  | finite (value : Binary)

def fractionSize : Nat := 0x10000000000000

/-- Reads the bits of the interchange format with 52 bits of fraction and 11 of exponent. -/
def decode (number : Float) : Decoded :=
  let bits : Nat := number.toBits.toNat
  let negative : Bool := 0x8000000000000000 ≤ bits
  let biased : Nat := bits / fractionSize % 0x800
  let fraction : Nat := bits % fractionSize
  if biased == 0x7FF then
    if fraction == 0 then .infinite negative else .nan
  else if biased == 0 then
    .finite ⟨negative, fraction, -1074, false⟩
  else
    .finite ⟨negative, fraction + fractionSize, (biased : Int) - 1075, fraction == 0 && biased != 1⟩

def isFinite (number : Float) : Bool :=
  match decode number with
  | .finite _ => true
  | _ => false

/-- A quotient of natural numbers equal to `magnitude · 2 ^ exponent`. -/
def scaled (magnitude : Nat) (exponent : Int) : Nat × Nat :=
  if 0 ≤ exponent then (magnitude * Nat.pow 2 exponent.toNat, 1)
  else (magnitude, Nat.pow 2 (-exponent).toNat)

/-- The integer part, held within `0 … most`; not a number gives zero. -/
def clampToNat (most : Nat) (number : Float) : Nat :=
  match decode number with
  | .nan => 0
  | .infinite negative => if negative then 0 else most
  | .finite value =>
      if value.negative then 0
      else
        let quotient := scaled value.mantissa value.exponent
        min most (quotient.1 / quotient.2)

end BoundQuery.Decimal
