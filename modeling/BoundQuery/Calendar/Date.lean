/-!
Calendar dates of the proleptic Gregorian calendar and their written form.
-/

set_option autoImplicit false

namespace BoundQuery

structure Date where
  year : Int
  month : Nat
  day : Nat
deriving DecidableEq

namespace Date

def isLeap (year : Int) : Bool :=
  year % 4 == 0 && (year % 100 != 0 || year % 400 == 0)

def daysInMonth (year : Int) (month : Nat) : Nat :=
  if month = 2 then (if isLeap year then 29 else 28)
  else if month = 4 || month = 6 || month = 9 || month = 11 then 30
  else 31

/-- Years are bounded by what 32 bits of packed date can hold. -/
def leastYear : Int := -262143

def greatestYear : Int := 262142

def isValid (date : Date) : Bool :=
  leastYear ≤ date.year && date.year ≤ greatestYear && 1 ≤ date.month && date.month ≤ 12 &&
    1 ≤ date.day && date.day ≤ daysInMonth date.year date.month

def make? (year : Int) (month day : Nat) : Option Date :=
  if isValid ⟨year, month, day⟩ then some ⟨year, month, day⟩ else none

/-- The date that lies the given number of days after 1970-01-01. Years are counted from March, in
eras of 400 years, so that the leap day comes last. -/
def ofDays (days : Int) : Date :=
  let shifted := days + 719468
  let era := shifted / 146097
  let dayOfEra := shifted % 146097
  let yearOfEra := (dayOfEra - dayOfEra / 1460 + dayOfEra / 36524 - dayOfEra / 146096) / 365
  let dayOfYear := dayOfEra - (365 * yearOfEra + yearOfEra / 4 - yearOfEra / 100)
  let monthFromMarch := (5 * dayOfYear + 2) / 153
  let day := dayOfYear - (153 * monthFromMarch + 2) / 5 + 1
  let month := if monthFromMarch < 10 then monthFromMarch + 3 else monthFromMarch - 9
  let year := yearOfEra + 400 * era + (if month ≤ 2 then 1 else 0)
  ⟨year, month.toNat, day.toNat⟩

/-- The local date of an instant, given in seconds, in a zone ahead by so many seconds. -/
def ofInstant (seconds offset : Int) : Date :=
  ofDays ((seconds + offset) / 86400)

def padded (width number : Nat) : List Char :=
  let digits := Nat.toDigits 10 number
  List.replicate (width - digits.length) '0' ++ digits

/-- Four digits; a year that needs another form carries its sign. -/
def yearText (year : Int) : List Char :=
  if 0 ≤ year && year ≤ 9999 then padded 4 year.toNat
  else (if year < 0 then '-' else '+') :: padded 4 year.natAbs

def text (date : Date) : String :=
  String.ofList (yearText date.year ++ '-' :: padded 2 date.month ++ '-' :: padded 2 date.day)

end Date

end BoundQuery
