import BoundQuery.Identifier
import BoundQuery.Operator
import BoundQuery.Statement.Clauses

/-!
Projection, source, joins, grouping, order and paging. A refused call leaves the clauses as they
were.
-/

set_option autoImplicit false

namespace BoundQuery

namespace Profile

def column (profile : Profile) (name : String) : Except QueryError String := do
  let identifier ← Identifier.readColumn name
  pure (identifier.render profile)

def columns (profile : Profile) (names : List String) : Except QueryError (List String) :=
  names.mapM profile.column

def table (profile : Profile) (name : String) : Except QueryError String := do
  let identifier ← Identifier.readTable name
  pure (identifier.render profile)

/-- An alias is one plain name, never an expression. -/
def aliasName (profile : Profile) (name : String) : Except QueryError String := do
  match ← Identifier.readColumn name with
  | .plain plain =>
      if plain.toList.contains '.' then .error (.invalidIdentifier "alias" plain)
      else pure (profile.quotePart plain)
  | .expression text => .error (.invalidIdentifier "alias" text)

end Profile

def rawCondition (kind sql : String) (values : List Value) : Except QueryError (List Part) := do
  checkRaw kind sql
  let parts := Part.ofRaw (Text.trimChars sql.toList)
  let slots := parts.countP Part.isSlot
  if slots = values.length then pure parts
  else .error ((QueryError.bindingMismatch slots values.length).withSql sql)

def nonNegative (field : String) (number : Int) : Except QueryError Nat :=
  if 0 ≤ number then .ok number.toNat
  else .error (.invalidArgument field
    (field ++ " must not be negative, got " ++ String.ofList (writeInt number)))

namespace Clauses

def select (clauses : Clauses) (profile : Profile) (names : List String) :
    Except QueryError Clauses := do
  pure { clauses with columns := ← profile.columns names }

/-- The columns of a comma-separated text; empty stretches are skipped. -/
def selectColumns (clauses : Clauses) (profile : Profile) (text : String) :
    Except QueryError Clauses :=
  let stretches := (text.toList.splitOn ',').map Text.trimChars
  clauses.select profile
    ((stretches.filter (fun stretch => !stretch.isEmpty)).map String.ofList)

def aliased (profile : Profile) (aliasName column : String) : Except QueryError String := do
  let rendered ← profile.column column
  let named ← profile.aliasName aliasName
  pure (rendered ++ " AS " ++ named)

def selectAliased (clauses : Clauses) (profile : Profile) (pairs : List (String × String)) :
    Except QueryError Clauses := do
  pure { clauses with columns := ← pairs.mapM (fun pair => aliased profile pair.1 pair.2) }

def addSelect (clauses : Clauses) (profile : Profile) (names : List String) :
    Except QueryError Clauses := do
  pure { clauses with columns := clauses.columns ++ (← profile.columns names) }

def readFrom (clauses : Clauses) (profile : Profile) (table : String) :
    Except QueryError Clauses := do
  let rendered ← profile.table table
  pure { clauses with source := some ⟨Text.trim table, rendered, none⟩ }

def readFromAs (clauses : Clauses) (profile : Profile) (table aliasName : String) :
    Except QueryError Clauses := do
  let rendered ← profile.table table
  let named ← profile.aliasName aliasName
  pure { clauses with source := some ⟨Text.trim table, rendered, some named⟩ }

def join (clauses : Clauses) (profile : Profile) (kind : JoinKind)
    (table first operator second : String) : Except QueryError Clauses := do
  let rendered ← profile.table table
  let comparison ← Operator.read operator
  let left ← profile.column first
  let right ← profile.column second
  let condition := left ++ " " ++ comparison.text ++ " " ++ right
  pure { clauses with joins := clauses.joins ++ [⟨kind, rendered, some condition⟩] }

def crossJoin (clauses : Clauses) (profile : Profile) (table : String) :
    Except QueryError Clauses := do
  let rendered ← profile.table table
  pure { clauses with joins := clauses.joins ++ [⟨.cross, rendered, none⟩] }

/-- A cross join has no condition, though one that is given is still checked. -/
def joinRaw (clauses : Clauses) (profile : Profile) (kind : JoinKind) (table condition : String) :
    Except QueryError Clauses := do
  let rendered ← profile.table table
  checkRaw "join condition" condition
  let written := if kind = .cross then none else some (Text.trim condition)
  pure { clauses with joins := clauses.joins ++ [⟨kind, rendered, written⟩] }

def groupBy (clauses : Clauses) (profile : Profile) (names : List String) :
    Except QueryError Clauses := do
  pure { clauses with groups := clauses.groups ++ (← profile.columns names) }

def having (clauses : Clauses) (profile : Profile) (column operator : String) (value : Value) :
    Except QueryError Clauses := do
  let comparison ← Operator.read operator
  let rendered ← profile.column column
  pure (clauses.addHaving [.sql (rendered ++ " " ++ comparison.text ++ " "), .slot] [value])

def havingRaw (clauses : Clauses) (sql : String) (values : List Value) :
    Except QueryError Clauses := do
  pure (clauses.addHaving (← rawCondition "having" sql values) values)

def orderBy (clauses : Clauses) (profile : Profile) (column : String) (direction : Direction) :
    Except QueryError Clauses := do
  let rendered ← profile.column column
  pure { clauses with orders := clauses.orders ++ [⟨rendered, direction, false⟩] }

def orderByRaw (clauses : Clauses) (expression : String) : Except QueryError Clauses := do
  checkRaw "order expression" expression
  let trimmed := Text.trim expression
  if trimmed.isEmpty then .error (.invalidIdentifier "order expression" expression)
  else pure { clauses with orders := clauses.orders ++ [⟨trimmed, .ascending, true⟩] }

def withLimit (clauses : Clauses) (limit : Int) : Except QueryError Clauses := do
  pure { clauses with limit := some (← nonNegative "limit" limit) }

def withOffset (clauses : Clauses) (offset : Int) : Except QueryError Clauses := do
  pure { clauses with offset := some (← nonNegative "offset" offset) }

end Clauses

def isQuoteMark (char : Char) : Bool :=
  char == '"' || char == '\x60' || char == '[' || char == ']'

def afterLastAs? : List Char → Option (List Char)
  | [] => none
  | char :: rest =>
      match afterLastAs? rest with
      | some found => some found
      | none =>
          if Text.startsIgnoringCase [' ', 'a', 's', ' '] (char :: rest) then
            some ((char :: rest).drop 4)
          else none

/-- The name under which a selected column stands in a row: its alias, else its last dotted part. -/
def resultKey (column : String) : String :=
  let trimmed := Text.trimChars column.toList
  let shown :=
    match afterLastAs? trimmed with
    | some name => Text.trimChars name
    | none => Text.afterLast '.' trimmed
  String.ofList (Text.trimMatching isQuoteMark shown)

end BoundQuery
