import BoundQuery.Statement.Fragment

/-!
The clauses of a statement under construction. Names in them are already written for a database;
values are held by the binding list alone.
-/

set_option autoImplicit false

namespace BoundQuery

inductive Combinator where
  | and
  | or
deriving DecidableEq

def Combinator.text : Combinator → String
  | .and => "AND"
  | .or => "OR"

structure Predicate where
  combinator : Combinator
  fragment : Fragment

inductive JoinKind where
  | inner
  | left
  | right
  | full
  | cross
deriving DecidableEq

def JoinKind.text : JoinKind → String
  | .inner => "INNER JOIN"
  | .left => "LEFT JOIN"
  | .right => "RIGHT JOIN"
  | .full => "FULL JOIN"
  | .cross => "CROSS JOIN"

structure Join where
  kind : JoinKind
  table : String
  condition : Option String

inductive Direction where
  | ascending
  | descending
deriving DecidableEq

def Direction.text : Direction → String
  | .ascending => "ASC"
  | .descending => "DESC"

/-- A raw entry is the caller's own expression and is written without a direction. -/
structure Order where
  column : String
  direction : Direction
  raw : Bool

/-- A source is known by its name as the caller wrote it. -/
structure Source where
  name : String
  rendered : String
  aliasName : Option String

/-- Rows follow one another in the span. -/
structure Insert where
  table : String
  columns : List String
  rowCount : Nat
  span : Span

structure Update where
  table : String
  columns : List String
  span : Span

structure Delete where
  table : String

structure RawStatement where
  sql : String
  span : Span

structure Clauses where
  columns : List String := []
  distinct : Bool := false
  source : Option Source := none
  joins : List Join := []
  wheres : List Predicate := []
  groups : List String := []
  havings : List Predicate := []
  orders : List Order := []
  limit : Option Nat := none
  offset : Option Nat := none
  insert : Option Insert := none
  update : Option Update := none
  delete : Option Delete := none
  raw : Option RawStatement := none
  bindings : BindingList := {}

namespace Clauses

def tableName (clauses : Clauses) : Option String :=
  clauses.source.map Source.name

def isWrite (clauses : Clauses) : Bool :=
  clauses.insert.isSome || clauses.update.isSome || clauses.delete.isSome

def addWhere (clauses : Clauses) (combinator : Combinator) (parts : List Part)
    (values : List Value) : Clauses :=
  let bound := clauses.bindings.append values
  { clauses with
    wheres := clauses.wheres ++ [⟨combinator, ⟨parts, bound.1⟩⟩]
    bindings := bound.2 }

def addHaving (clauses : Clauses) (parts : List Part) (values : List Value) : Clauses :=
  let bound := clauses.bindings.append values
  { clauses with
    havings := clauses.havings ++ [⟨.and, ⟨parts, bound.1⟩⟩]
    bindings := bound.2 }

/-- The parts of a chain of conditions; the first combinator is not written. -/
def chainParts : List Predicate → List Part
  | [] => []
  | first :: rest =>
      first.fragment.parts ++ rest.flatMap (fun predicate =>
        .sql (" " ++ predicate.combinator.text ++ " ") :: predicate.fragment.parts)

def chainValues (bindings : BindingList) (predicates : List Predicate) : List Value :=
  predicates.flatMap (fun predicate => bindings.slice predicate.fragment.span)

def parenthesized (parts : List Part) : List Part :=
  .sql "(" :: parts ++ [.sql ")"]

/-- Makes the WHERE conditions one, so that a condition added next applies to all of them. Nothing
needs doing where no `OR` joins them. -/
def groupWheres (clauses : Clauses) : Clauses :=
  if (clauses.wheres.drop 1).any (fun predicate => predicate.combinator == .or) then
    { clauses with wheres := [] }.addWhere .and (parenthesized (chainParts clauses.wheres))
      (chainValues clauses.bindings clauses.wheres)
  else clauses

/-- The same rows under another projection; order and paging do not touch an aggregate. -/
def forAggregate (clauses : Clauses) (expression : String) : Clauses :=
  { clauses with
    columns := [expression]
    distinct := false
    orders := []
    limit := none
    offset := none }

end Clauses

end BoundQuery
