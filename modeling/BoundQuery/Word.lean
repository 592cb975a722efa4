/-!
Numbers of 64 bits, without a sign and with one.
-/

set_option autoImplicit false

namespace BoundQuery

def greatestWord : Nat := 0xFFFFFFFFFFFFFFFF

def leastSigned : Int := -0x8000000000000000

def greatestSigned : Int := 0x7FFFFFFFFFFFFFFF

def fitsSigned (number : Int) : Bool :=
  leastSigned ≤ number && number ≤ greatestSigned

def checkedMul (left right : Nat) : Option Nat :=
  if left * right ≤ greatestWord then some (left * right) else none

/-- The sum, or the greatest number if it does not fit. -/
def saturatingAdd (left right : Nat) : Nat :=
  min greatestWord (left + right)

def saturatingMul (left right : Nat) : Nat :=
  min greatestWord (left * right)

end BoundQuery
