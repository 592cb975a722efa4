import BoundQuery.Decimal.Shortest

/-!
Reading numbers from text: unsigned integers with a bound, and floating-point numbers rounded to the
nearest.
-/

set_option autoImplicit false

namespace BoundQuery.Decimal

def digitValue (char : Char) : Nat :=
  char.toNat - '0'.toNat

def digitsValue (digits : List Char) : Nat :=
  digits.foldl (fun value digit => 10 * value + digitValue digit) 0

inductive IntegerFault where
  | empty
  | invalidDigit
  | tooLarge

def IntegerFault.message : IntegerFault → String
  | .empty => "cannot parse integer from empty string"
  | .invalidDigit => "invalid digit found in string"
  | .tooLarge => "number too large to fit in target type"

/-- Stops at the first character that is no digit or that carries the value past the bound. -/
def readDigits (most : Nat) (value : Nat) : List Char → Except IntegerFault Nat
  | [] => .ok value
  | char :: rest =>
      if !char.isDigit then .error .invalidDigit
      else if most < 10 * value + digitValue char then .error .tooLarge
      else readDigits most (10 * value + digitValue char) rest

/-- A leading plus sign is allowed when digits follow. -/
def readNat (most : Nat) : List Char → Except IntegerFault Nat
  | [] => .error .empty
  | '+' :: char :: rest => readDigits most 0 (char :: rest)
  | chars => readDigits most 0 chars

/-- The nearest floating-point number to `±coefficient · 10 ^ exponent`. Exponents far outside the
range are settled without computing the power. -/
def nearest (negative : Bool) (coefficient : Nat) (exponent : Int) : Float :=
  let leading := exponent + digitCount coefficient
  let magnitude : Float :=
    if coefficient = 0 || leading < -400 then 0.0
    else if 400 < leading then 1.0 / 0.0
    else Float.ofScientific coefficient (exponent < 0) exponent.natAbs
  if negative then -magnitude else magnitude

def readExponent? : List Char → Option Int
  | [] => none
  | sign :: rest =>
      let negative := sign == '-'
      let digits := if negative || sign == '+' then rest else sign :: rest
      if digits.isEmpty || !digits.all Char.isDigit then none
      else
        let value : Int := digitsValue digits
        some (if negative then -value else value)

/-- Digits with an optional point and an optional exponent; a digit must stand before or after the
point. -/
def readUnsignedFloat? (negative : Bool) (chars : List Char) : Option Float :=
  let whole := chars.takeWhile Char.isDigit
  let afterWhole := chars.dropWhile Char.isDigit
  let fraction :=
    match afterWhole with
    | '.' :: rest => rest.takeWhile Char.isDigit
    | _ => []
  let afterFraction :=
    match afterWhole with
    | '.' :: rest => rest.dropWhile Char.isDigit
    | rest => rest
  if whole.isEmpty && fraction.isEmpty then none
  else
    let value := fun (exponent : Int) =>
      nearest negative (digitsValue (whole ++ fraction)) (exponent - fraction.length)
    match afterFraction with
    | [] => some (value 0)
    | mark :: rest =>
        if mark == 'e' || mark == 'E' then (readExponent? rest).map value else none

/-- Also reads `inf`, `infinity` and `nan` in any case. -/
def readFloat? (chars : List Char) : Option Float :=
  let negative := chars.head? == some '-'
  let body := if negative || chars.head? == some '+' then chars.drop 1 else chars
  let word := String.ofList (body.map Char.toLower)
  if word == "inf" || word == "infinity" then some (if negative then -1.0 / 0.0 else 1.0 / 0.0)
  else if word == "nan" then some (0.0 / 0.0)
  else readUnsignedFloat? negative body

end BoundQuery.Decimal
