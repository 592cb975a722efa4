import BoundQuery.Engine.Basic
import BoundQuery.Word

/-!
Reading rows, single values and aggregates. The builder itself is never changed by a read.
-/

set_option autoImplicit false

namespace BoundQuery

def aggregateAlias : String := "aggregate"

def floatOf? : Json → Option Float
  | .number (.int number) => some (Decimal.nearest (number < 0) number.natAbs 0)
  | .number (.float number) => some number
  | .string text => Decimal.readFloat? (Text.trimChars text.toList)
  | .bool flag => some (if flag then 1.0 else 0.0)
  | _ => none

/-- A JSON value as a count: integers exactly, other numbers cut off and held within 64 bits. -/
def countOf? (value : Json) : Option Nat :=
  let cut := (floatOf? value).map (Decimal.clampToNat greatestWord)
  match value with
  | .number (.int number) => if 0 ≤ number then some number.toNat else cut
  | .string text =>
      match Decimal.readNat greatestWord (Text.trimChars text.toList) with
      | .ok number => some number
      | .error _ => cut
  | _ => cut

def nonNull? : Json → Option Json
  | .null => none
  | value => some value

/-- Takes the later value for a name that is there, which keeps its place. -/
def putPair (name : String) (value : Json) : List (String × Json) → List (String × Json)
  | [] => [(name, value)]
  | (other, held) :: rest =>
      if name == other then (name, value) :: rest else (other, held) :: putPair name value rest

/-- The text under which a value serves as a key; null serves as none. -/
def keyText? : Option Json → Option String
  | none => none
  | some .null => none
  | some (.string text) => some text
  | some other => some other.text

/-- Pairs of a key and a value, in the order in which the keys first occur; rows without a key are
left out. -/
def keyedPairs (valueKey keyKey : String) (rows : List Row) : List (String × Json) :=
  rows.foldl
    (fun pairs row =>
      match keyText? (row.lookup keyKey) with
      | some key => putPair key ((row.lookup valueKey).getD .null) pairs
      | none => pairs)
    []

namespace Builder

/-- An aggregate over the rows of a builder. Groups and distinct rows are counted from outside. -/
def aggregateStatement (builder : Builder) (expression : String) :
    Except QueryError Statement := do
  Engine.requireSelect builder "aggregate"
  let projection := expression ++ " AS " ++ aggregateAlias
  if builder.clauses.groups.isEmpty && !builder.clauses.distinct then
    (builder.clauses.forAggregate projection).compile builder.profile
  else
    let inner ←
      { builder.clauses with orders := [], limit := none, offset := none }.compile
        builder.profile
    pure ⟨"SELECT " ++ projection ++ " FROM (" ++ inner.sql ++ ") AS aggregate_table",
      inner.bindings⟩

end Builder

namespace Engine

variable {World : Type}

def get (engine : Engine World) (builder : Builder) : Action World (List Row) := do
  let statement ← builder.statement
  let output ← engine.fetchWith builder statement true builder.directive
  pure output.rows

def first (engine : Engine World) (builder : Builder) : Action World (Option Row) := do
  let rows ← engine.fetchClauses builder { builder.clauses with limit := some 1 }
  pure rows.head?

def firstOrFail (engine : Engine World) (builder : Builder) : Action World Row := do
  match ← engine.first builder with
  | some row => pure row
  | none => throw ((QueryError.notFound (tableLabel builder)).during "first_or_fail")

/-- The only row; two are asked for, so that a second one is noticed. -/
def sole (engine : Engine World) (builder : Builder) : Action World Row := do
  match ← engine.fetchClauses builder { builder.clauses with limit := some 2 } with
  | [] => throw ((QueryError.notFound (tableLabel builder)).during "sole")
  | [row] => pure row
  | _ => throw ((QueryError.notUnique (tableLabel builder)).during "sole")

/-- The aggregate of the first row: by its name, or else the first column. -/
def aggregateOf : List Row → Json
  | [] => .null
  | row :: _ =>
      match row.lookup aggregateAlias with
      | some value => value
      | none => (row.head?.map Prod.snd).getD .null

def aggregate (engine : Engine World) (builder : Builder) (expression : String) :
    Action World Json := do
  let statement ← builder.aggregateStatement expression
  let output ← engine.fetchDerived builder statement engine.config.aggregatesUseCache
  pure (aggregateOf output.rows)

def count (engine : Engine World) (builder : Builder) : Action World Nat := do
  pure ((countOf? (← engine.aggregate builder "COUNT(*)")).getD 0)

def aggregateColumn (engine : Engine World) (builder : Builder) (function column : String) :
    Action World Json := do
  let rendered ← builder.profile.column column
  engine.aggregate builder (function ++ "(" ++ rendered ++ ")")

def sum (engine : Engine World) (builder : Builder) (column : String) :
    Action World (Option Float) := do
  pure (floatOf? (← engine.aggregateColumn builder "SUM" column))

def average (engine : Engine World) (builder : Builder) (column : String) :
    Action World (Option Float) := do
  pure (floatOf? (← engine.aggregateColumn builder "AVG" column))

def minimum (engine : Engine World) (builder : Builder) (column : String) :
    Action World (Option Json) := do
  pure (nonNull? (← engine.aggregateColumn builder "MIN" column))

def maximum (engine : Engine World) (builder : Builder) (column : String) :
    Action World (Option Json) := do
  pure (nonNull? (← engine.aggregateColumn builder "MAX" column))

/-- Whether there is a row; one is asked for, in any order. -/
def hasRows (engine : Engine World) (builder : Builder) : Action World Bool := do
  requireSelect builder "exists"
  let probe : Clauses :=
    { builder.clauses with columns := ["1 AS present"], orders := [], limit := some 1 }
  let statement ← probe.compile builder.profile
  let output ← engine.fetchDerived builder statement engine.config.aggregatesUseCache
  pure (!output.rows.isEmpty)

def pluck (engine : Engine World) (builder : Builder) (column : String) :
    Action World (List Json) := do
  requireSelect builder "pluck"
  let rendered ← builder.profile.column column
  let rows ← engine.fetchClauses builder { builder.clauses with columns := [rendered] }
  pure (rows.map (fun row => (row.lookup (resultKey column)).getD .null))

def pluckPairs (engine : Engine World) (builder : Builder) (valueColumn keyColumn : String) :
    Action World (List (String × Json)) := do
  requireSelect builder "pluck_key_value"
  let value ← builder.profile.column valueColumn
  let key ← builder.profile.column keyColumn
  let rows ← engine.fetchClauses builder { builder.clauses with columns := [value, key] }
  pure (keyedPairs (resultKey valueColumn) (resultKey keyColumn) rows)

end Engine

end BoundQuery
