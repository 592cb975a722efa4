import BoundQuery.Error
import BoundQuery.Text.Blank
import BoundQuery.Text.Letters
import BoundQuery.Text.Quoted

/-!
How a database spells identifiers, placeholders, date functions and paging. A profile is a record of
spellings; four are built in.
-/

set_option autoImplicit false

namespace BoundQuery

def doubled (mark : Char) (chars : List Char) : List Char :=
  chars.flatMap (fun char => if char == mark then [char, char] else [char])

/-- Text between quotes, the closing quote doubled inside. -/
def enclosed (opening closing : Char) (part : String) : String :=
  String.ofList (opening :: doubled closing part.toList ++ [closing])

/-- Quotes each dotted part; a star stands bare. -/
def quoteDotted (quotePart : String → String) (name : String) : String :=
  ".".intercalate ((Text.splitAt '.' name).map
    (fun part => if part == "*" then part else quotePart part))

def standardPaging (limit offset : Option Nat) : String :=
  match limit, offset with
  | none, none => ""
  | some limit, none => "LIMIT " ++ toString limit
  | none, some offset => "OFFSET " ++ toString offset
  | some limit, some offset => "LIMIT " ++ toString limit ++ " OFFSET " ++ toString offset

/-- Placeholders are numbered from one. The last argument of `limitOffset` tells whether the
statement is ordered. -/
structure Profile where
  name : String
  quotePart : String → String
  placeholder : Nat → String
  dateOf : String → String
  yearOf : String → String
  monthOf : String → String
  dayOf : String → String
  currentDate : String
  dateMinusDays : Nat → String
  escapeIdentifier : String → String := quoteDotted quotePart
  limitOffset : Option Nat → Option Nat → Bool → String :=
    fun limit offset _ => standardPaging limit offset

inductive Dialect where
  | postgresql
  | mysql
  | sqlite
  | mssql
deriving DecidableEq

namespace Dialect

def name : Dialect → String
  | postgresql => "postgresql"
  | mysql => "mysql"
  | sqlite => "sqlite"
  | mssql => "mssql"

def quotePart : Dialect → String → String
  | postgresql, part => enclosed '"' '"' part
  | sqlite, part => enclosed '"' '"' part
  | mysql, part => enclosed '\x60' '\x60' part
  | mssql, part => enclosed '[' ']' part

def placeholder : Dialect → Nat → String
  | postgresql, index => "$" ++ toString index
  | mysql, _ => "?"
  | sqlite, _ => "?"
  | mssql, index => "@P" ++ toString index

def dateOf : Dialect → String → String
  | postgresql, column => "CAST(" ++ column ++ " AS DATE)"
  | mssql, column => "CAST(" ++ column ++ " AS DATE)"
  | mysql, column => "DATE(" ++ column ++ ")"
  | sqlite, column => "DATE(" ++ column ++ ")"

def yearOf : Dialect → String → String
  | postgresql, column => "EXTRACT(YEAR FROM " ++ column ++ ")"
  | mysql, column => "YEAR(" ++ column ++ ")"
  | mssql, column => "YEAR(" ++ column ++ ")"
  | sqlite, column => "CAST(strftime('%Y', " ++ column ++ ") AS INTEGER)"

def monthOf : Dialect → String → String
  | postgresql, column => "EXTRACT(MONTH FROM " ++ column ++ ")"
  | mysql, column => "MONTH(" ++ column ++ ")"
  | mssql, column => "MONTH(" ++ column ++ ")"
  | sqlite, column => "CAST(strftime('%m', " ++ column ++ ") AS INTEGER)"

def dayOf : Dialect → String → String
  | postgresql, column => "EXTRACT(DAY FROM " ++ column ++ ")"
  | mysql, column => "DAY(" ++ column ++ ")"
  | mssql, column => "DAY(" ++ column ++ ")"
  | sqlite, column => "CAST(strftime('%d', " ++ column ++ ") AS INTEGER)"

def currentDate : Dialect → String
  | postgresql => "CURRENT_DATE"
  | mysql => "CURDATE()"
  | sqlite => "DATE('now')"
  | mssql => "CAST(GETDATE() AS DATE)"

def dateMinusDays : Dialect → Nat → String
  | postgresql, days => "CURRENT_DATE - INTERVAL '" ++ toString days ++ " days'"
  | mysql, days => "DATE_SUB(CURDATE(), INTERVAL " ++ toString days ++ " DAY)"
  | sqlite, days => "DATE('now', '-" ++ toString days ++ " days')"
  | mssql, days => "DATEADD(day, -" ++ toString days ++ ", CAST(GETDATE() AS DATE))"

/-- Offsets and limits are legal only behind an order, so one that orders nothing is supplied. -/
def fetchPaging (limit offset : Option Nat) (ordered : Bool) : String :=
  if limit.isNone && offset.isNone then ""
  else
    (if ordered then "" else "ORDER BY (SELECT NULL) ") ++
      "OFFSET " ++ toString (offset.getD 0) ++ " ROWS" ++
      (match limit with
        | none => ""
        | some limit => " FETCH NEXT " ++ toString limit ++ " ROWS ONLY")

def limitOffset : Dialect → Option Nat → Option Nat → Bool → String
  | mssql, limit, offset, ordered => fetchPaging limit offset ordered
  | _, limit, offset, _ => standardPaging limit offset

def profile (dialect : Dialect) : Profile :=
  { name := dialect.name
    quotePart := dialect.quotePart
    placeholder := dialect.placeholder
    dateOf := dialect.dateOf
    yearOf := dialect.yearOf
    monthOf := dialect.monthOf
    dayOf := dialect.dayOf
    currentDate := dialect.currentDate
    dateMinusDays := dialect.dateMinusDays
    limitOffset := dialect.limitOffset }

def names : List (String × Dialect) :=
  [("postgres", postgresql), ("postgresql", postgresql), ("pg", postgresql), ("mysql", mysql),
    ("mariadb", mysql), ("sqlite", sqlite), ("sqlite3", sqlite), ("mssql", mssql),
    ("sqlserver", mssql), ("sql_server", mssql)]

def read (written : String) : Except QueryError Dialect :=
  let wanted := Text.lower (Text.trim written)
  match names.lookup wanted with
  | some dialect => .ok dialect
  | none => .error (.invalidConfiguration ("Unknown SQL dialect: " ++ Text.quoted wanted))

end Dialect

end BoundQuery
