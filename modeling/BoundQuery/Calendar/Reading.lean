import BoundQuery.Calendar.Date
import BoundQuery.Decimal.Reading
import BoundQuery.Error
import BoundQuery.Text.Blank
import BoundQuery.Text.Search

/-!
Reading dates. A text may be a date, a date with a time of day, or an instant with its zone; the
time is checked and then left out, so the date written is the date read.
-/

set_option autoImplicit false

namespace BoundQuery.Date

/-- At most so many digits, at least one. -/
def readNumber? (most : Nat) (chars : List Char) : Option (Nat × List Char) :=
  let digits := (chars.take most).takeWhile Char.isDigit
  if digits.isEmpty then none
  else some (Decimal.digitsValue digits, chars.drop digits.length)

/-- A field of a loose layout: white space may stand before it. -/
def readField? (least most : Nat) (chars : List Char) : Option (Nat × List Char) := do
  let (value, rest) ← readNumber? 2 (Text.trimStartChars chars)
  if least ≤ value && value ≤ most then some (value, rest) else none

/-- A year has at most four digits unless it carries a sign. -/
def readYear? (chars : List Char) : Option (Int × List Char) :=
  match Text.trimStartChars chars with
  | '-' :: rest => (readNumber? rest.length rest).map (fun found => (-(found.1 : Int), found.2))
  | '+' :: rest => (readNumber? rest.length rest).map (fun found => ((found.1 : Int), found.2))
  | rest => (readNumber? 4 rest).map (fun found => ((found.1 : Int), found.2))

def readLooseDate? (chars : List Char) : Option (Date × List Char) := do
  let (year, afterYear) ← readYear? chars
  let (month, afterMonth) ← readField? 1 12 (← Text.after? ['-'] afterYear)
  let (day, afterDay) ← readField? 1 31 (← Text.after? ['-'] afterMonth)
  let date ← make? year month day
  pure (date, afterDay)

def skipFraction? : List Char → Option (List Char)
  | '.' :: rest =>
      if (rest.takeWhile Char.isDigit).isEmpty then none else some (rest.dropWhile Char.isDigit)
  | rest => some rest

/-- A leap second is allowed. -/
def skipLooseTime? (withSeconds : Bool) (chars : List Char) : Option (List Char) := do
  let (_, afterHour) ← readField? 0 23 chars
  let (_, afterMinute) ← readField? 0 59 (← Text.after? [':'] afterHour)
  if withSeconds then
    let (_, afterSecond) ← readField? 0 60 (← Text.after? [':'] afterMinute)
    skipFraction? afterSecond
  else pure afterMinute

def onlyIfAll {α : Type} (value : α) (rest : List Char) : Option α :=
  if rest.isEmpty then some value else none

def readPlain? (chars : List Char) : Option Date := do
  let (date, rest) ← readLooseDate? chars
  onlyIfAll date rest

/-- White space between date and time may be any amount, also none. -/
def readSpaced? (withSeconds : Bool) (chars : List Char) : Option Date := do
  let (date, rest) ← readLooseDate? chars
  onlyIfAll date (← skipLooseTime? withSeconds (Text.trimStartChars rest))

def readWithT? (chars : List Char) : Option Date := do
  let (date, rest) ← readLooseDate? chars
  onlyIfAll date (← skipLooseTime? true (← Text.after? ['T'] rest))

def readExact? (width least most : Nat) (chars : List Char) : Option (Nat × List Char) := do
  let (value, rest) ← readNumber? width chars
  if rest.length + width = chars.length && least ≤ value && value ≤ most then some (value, rest)
  else none

/-- A zone is `Z`, or a sign with hours below 24 and minutes. -/
def skipZone? : List Char → Option (List Char)
  | [] => none
  | sign :: rest =>
      if sign == 'Z' || sign == 'z' then some rest
      else if sign == '+' || sign == '-' || sign.toNat == 0x2212 then do
        let (_, afterHours) ← readExact? 2 0 23 rest
        let (_, afterMinutes) ← readExact? 2 0 59 (← Text.after? [':'] afterHours)
        pure afterMinutes
      else none

def isDateTimeMark (char : Char) : Bool :=
  char == 'T' || char == 't' || char == ' '

/-- The strict layout of internet timestamps. -/
def readTimestamp? (chars : List Char) : Option Date := do
  let (year, afterYear) ← readExact? 4 0 9999 chars
  let (month, afterMonth) ← readExact? 2 1 12 (← Text.after? ['-'] afterYear)
  let (day, afterDay) ← readExact? 2 1 31 (← Text.after? ['-'] afterMonth)
  match afterDay with
  | [] => none
  | mark :: time =>
      if !isDateTimeMark mark then none
      else
        let (_, afterHour) ← readExact? 2 0 23 time
        let (_, afterMinute) ← readExact? 2 0 59 (← Text.after? [':'] afterHour)
        let (_, afterSecond) ← readExact? 2 0 60 (← Text.after? [':'] afterMinute)
        let rest ← skipZone? (← skipFraction? afterSecond)
        let date ← make? year month day
        onlyIfAll date rest

def readChars? (chars : List Char) : Option Date :=
  readPlain? chars <|> readTimestamp? chars <|> readSpaced? true chars <|> readWithT? chars <|>
    readSpaced? false chars

/-- The layouts are tried in turn on the text without surrounding white space. -/
def read (written : String) : Except QueryError Date :=
  match readChars? (Text.trimChars written.toList) with
  | some date => .ok date
  | none =>
      .error (.invalidArgument "date" (Text.quoted written ++ " is not a recognizable date"))

end BoundQuery.Date

namespace BoundQuery

/-- A date as a caller gives it: in writing, as a date, as a date with a time of day, or as an
instant with the offset of its zone. -/
inductive DateInput where
  | written (text : String)
  | given (date : Date)
  | timed (date : Date) (second nanosecond : Nat)
  | instant (seconds offset : Int)

/-- An instant has the date that it has in its own zone. -/
def DateInput.resolve : DateInput → Except QueryError Date
  | .written text => Date.read text
  | .given date => .ok date
  | .timed date _ _ => .ok date
  | .instant seconds offset => .ok (.ofInstant seconds offset)

/-- Dates are bound as text, the time of day left out. -/
def DateInput.value (input : DateInput) : Except QueryError Value := do
  let date ← input.resolve
  pure (.string date.text)

end BoundQuery
