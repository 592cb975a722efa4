import BoundQuery.Builder.Select
import BoundQuery.Calendar.Reading

/-!
Conditions on rows. Each call adds one condition together with its values; a comparison with null is
written as a test for null.
-/

set_option autoImplicit false

namespace BoundQuery

inductive DatePart where
  | date
  | year
  | month
  | day
deriving DecidableEq

def DatePart.extract (part : DatePart) (profile : Profile) (column : String) : String :=
  match part with
  | .date => profile.dateOf column
  | .year => profile.yearOf column
  | .month => profile.monthOf column
  | .day => profile.dayOf column

def slotParts : Nat → List Part
  | 0 => []
  | 1 => [.slot]
  | count + 2 => .slot :: .sql ", " :: slotParts (count + 1)

namespace Clauses

def addTest (clauses : Clauses) (combinator : Combinator) (sql : String) : Clauses :=
  clauses.addWhere combinator [.sql sql] []

def addComparison (clauses : Clauses) (combinator : Combinator) (left : String)
    (operator : Operator) (value : Value) : Clauses :=
  clauses.addWhere combinator [.sql (left ++ " " ++ operator.text ++ " "), .slot] [value]

def compare (clauses : Clauses) (profile : Profile) (combinator : Combinator)
    (column operator : String) (value : Value) : Except QueryError Clauses := do
  let comparison ← Operator.read operator
  let rendered ← profile.column column
  if value.isNull && comparison == .equal then
    pure (clauses.addTest combinator (rendered ++ " IS NULL"))
  else if value.isNull && (comparison == .notEqual || comparison == .different) then
    pure (clauses.addTest combinator (rendered ++ " IS NOT NULL"))
  else pure (clauses.addComparison combinator rendered comparison value)

/-- Nothing is in an empty list. -/
def membership (clauses : Clauses) (profile : Profile) (combinator : Combinator) (negated : Bool)
    (column : String) (values : List Value) : Except QueryError Clauses := do
  let rendered ← profile.column column
  if values.isEmpty then
    pure (clauses.addTest combinator (if negated then "1 = 1" else "1 = 0"))
  else
    let keyword := if negated then "NOT IN" else "IN"
    pure (clauses.addWhere combinator
      (.sql (rendered ++ " " ++ keyword ++ " (") :: slotParts values.length ++ [.sql ")"]) values)

def addRange (clauses : Clauses) (combinator : Combinator) (left : String) (low high : Value) :
    Clauses :=
  clauses.addWhere combinator [.sql left, .slot, .sql " AND ", .slot] [low, high]

def between (clauses : Clauses) (profile : Profile) (combinator : Combinator) (negated : Bool)
    (column : String) (low high : Value) : Except QueryError Clauses := do
  let rendered ← profile.column column
  let keyword := if negated then "NOT BETWEEN" else "BETWEEN"
  pure (clauses.addRange combinator (rendered ++ " " ++ keyword ++ " ") low high)

def nullTest (clauses : Clauses) (profile : Profile) (combinator : Combinator) (negated : Bool)
    (column : String) : Except QueryError Clauses := do
  let rendered ← profile.column column
  pure (clauses.addTest combinator
    (rendered ++ (if negated then " IS NOT NULL" else " IS NULL")))

/-- A raw condition is put between parentheses, so that its own `OR` stays inside. -/
def whereRaw (clauses : Clauses) (combinator : Combinator) (sql : String) (values : List Value) :
    Except QueryError Clauses := do
  let parts ← rawCondition "where" sql values
  pure (clauses.addWhere combinator (parenthesized parts) values)

/-- Adds the conditions of other clauses as one condition; no conditions add nothing. -/
def addGroup (clauses : Clauses) (combinator : Combinator) (inner : Clauses) : Clauses :=
  if inner.wheres.isEmpty then clauses
  else
    clauses.addWhere combinator (parenthesized (chainParts inner.wheres))
      (chainValues inner.bindings inner.wheres)

def compareDatePart (clauses : Clauses) (profile : Profile) (part : DatePart)
    (column operator : String) (value : Value) : Except QueryError Clauses := do
  let comparison ← Operator.read operator
  let rendered ← profile.column column
  pure (clauses.addComparison .and (part.extract profile rendered) comparison value)

def whereDate (clauses : Clauses) (profile : Profile) (column operator : String)
    (date : DateInput) : Except QueryError Clauses := do
  let value ← date.value
  clauses.compareDatePart profile .date column operator value

def whereYear (clauses : Clauses) (profile : Profile) (column operator : String) (year : Int) :
    Except QueryError Clauses :=
  clauses.compareDatePart profile .year column operator (.int year)

def outOfRange (field : String) (most number : Nat) : QueryError :=
  .invalidArgument field
    (field ++ " must be 1-" ++ toString most ++ ", got " ++ toString number)

def whereMonth (clauses : Clauses) (profile : Profile) (column operator : String) (month : Nat) :
    Except QueryError Clauses :=
  if 1 ≤ month && month ≤ 12 then
    clauses.compareDatePart profile .month column operator (.int month)
  else .error (outOfRange "month" 12 month)

def whereDay (clauses : Clauses) (profile : Profile) (column operator : String) (day : Nat) :
    Except QueryError Clauses :=
  if 1 ≤ day && day ≤ 31 then
    clauses.compareDatePart profile .day column operator (.int day)
  else .error (outOfRange "day" 31 day)

def whereToday (clauses : Clauses) (profile : Profile) (column : String) :
    Except QueryError Clauses := do
  let rendered ← profile.column column
  pure (clauses.addTest .and (profile.dateOf rendered ++ " = " ++ profile.currentDate))

def whereYesterday (clauses : Clauses) (profile : Profile) (column : String) :
    Except QueryError Clauses := do
  let rendered ← profile.column column
  pure (clauses.addTest .and (profile.dateOf rendered ++ " = " ++ profile.dateMinusDays 1))

def whereLastDays (clauses : Clauses) (profile : Profile) (column : String) (days : Nat) :
    Except QueryError Clauses := do
  let rendered ← profile.column column
  pure (clauses.addTest .and (profile.dateOf rendered ++ " >= " ++ profile.dateMinusDays days))

def whereBetweenDates (clauses : Clauses) (profile : Profile) (column : String)
    (start stop : DateInput) : Except QueryError Clauses := do
  let low ← start.value
  let high ← stop.value
  let rendered ← profile.column column
  pure (clauses.addRange .and (profile.dateOf rendered ++ " BETWEEN ") low high)

end Clauses

end BoundQuery
