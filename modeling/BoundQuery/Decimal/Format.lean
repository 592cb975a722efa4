import BoundQuery.Decimal.Shortest

/-!
Floating-point numbers as text: with the shortest digits, or rounded to a number of places.
-/

set_option autoImplicit false

namespace BoundQuery.Decimal

/-- How shortest digits are laid out. The point stands at its place while the leading digit's
exponent is at least `leastPositional` and below `firstScientific`. -/
structure Layout where
  leastPositional : Int
  firstScientific : Int
  wholeMark : List Char
  exponentMark : List Char
  positiveSign : List Char

/-- Data files write `1.0`, `0.00001`, `1e+16`. -/
def dataLayout : Layout :=
  { leastPositional := -5
    firstScientific := 16
    wholeMark := ['.', '0']
    exponentMark := ['e']
    positiveSign := ['+'] }

def signOf (negative : Bool) : List Char :=
  if negative then ['-'] else []

/-- Digits with the point `places` digits from the right, zeros filling the gap on either side. -/
def positional (layout : Layout) (digits : List Char) (exponent : Int) : List Char :=
  if 0 ≤ exponent then digits ++ List.replicate exponent.toNat '0' ++ layout.wholeMark
  else
    let places := (-exponent).toNat
    let padded := List.replicate (places + 1 - digits.length) '0' ++ digits
    padded.take (padded.length - places) ++ ['.'] ++ padded.drop (padded.length - places)

def scientific (layout : Layout) (digits : List Char) (leading : Int) : List Char :=
  let mantissa :=
    match digits with
    | [] => []
    | [digit] => [digit]
    | digit :: rest => digit :: '.' :: rest
  let sign := if leading < 0 then ['-'] else layout.positiveSign
  mantissa ++ layout.exponentMark ++ sign ++ Nat.toDigits 10 leading.natAbs

def Layout.write (layout : Layout) (value : Binary) : List Char :=
  let decimal := shortest value
  let shown := (Nat.toDigits 10 decimal.coefficient).reverse.dropWhile (· == '0')
  let digits := if shown.isEmpty then ['0'] else shown.reverse
  let exponent :=
    if shown.isEmpty then 0
    else decimal.exponent + (Nat.toDigits 10 decimal.coefficient).length - digits.length
  let leading := exponent + digits.length - 1
  let body :=
    if layout.leastPositional ≤ leading && leading < layout.firstScientific then
      positional layout digits exponent
    else scientific layout digits leading
  signOf value.negative ++ body

def roundHalfEven (numerator denominator : Nat) : Nat :=
  let below := numerator / denominator
  let remainder := numerator % denominator
  if 2 * remainder < denominator then below
  else if denominator < 2 * remainder then below + 1
  else if below % 2 == 0 then below
  else below + 1

def fixedPlaces (places : Nat) (number : Float) : String :=
  match decode number with
  | .nan => "NaN"
  | .infinite negative => String.ofList (signOf negative) ++ "inf"
  | .finite value =>
      let quotient := scaled value.mantissa value.exponent
      let units := roundHalfEven (quotient.1 * Nat.pow 10 places) quotient.2
      let digits := Nat.toDigits 10 units
      let padded := List.replicate (places + 1 - digits.length) '0' ++ digits
      let whole := padded.take (padded.length - places)
      let fraction := padded.drop (padded.length - places)
      String.ofList (signOf value.negative ++ whole ++
        (if places == 0 then [] else '.' :: fraction))

end BoundQuery.Decimal
