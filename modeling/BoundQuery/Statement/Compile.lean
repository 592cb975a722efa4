import BoundQuery.Dialect
import BoundQuery.Statement.Clauses

/-!
Clauses as a statement: a sequence of texts and filled slots, then SQL in which the slots are
numbered from the left and a list of their values in the same order.
-/

set_option autoImplicit false

namespace BoundQuery

structure Statement where
  sql : String
  bindings : List Value

inductive Piece where
  | sql (text : String)
  | slot (value : Value)

namespace Piece

def value? : Piece → Option Value
  | slot value => some value
  | sql _ => none

def values (pieces : List Piece) : List Value :=
  pieces.filterMap value?

/-- The number is that of the next slot. -/
def writeFrom (placeholder : Nat → String) : Nat → List Piece → List Char
  | _, [] => []
  | number, sql text :: rest => text.toList ++ writeFrom placeholder number rest
  | number, slot _ :: rest =>
      (placeholder number).toList ++ writeFrom placeholder (number + 1) rest

def statement (profile : Profile) (pieces : List Piece) : Statement :=
  ⟨String.ofList (writeFrom profile.placeholder 1 pieces), values pieces⟩

end Piece

def fillSlots : List Part → List Value → List Piece
  | [], _ => []
  | .sql text :: parts, values => .sql text :: fillSlots parts values
  | .slot :: parts, value :: values => .slot value :: fillSlots parts values
  | .slot :: parts, [] => fillSlots parts []

def commaSeparated (texts : List String) : String :=
  ", ".intercalate texts

namespace Fragment

/-- A fragment must be given as many values as it has slots. -/
def pieces (fragment : Fragment) (bindings : BindingList) : Except QueryError (List Piece) :=
  let values := bindings.slice fragment.span
  if values.length = fragment.slotCount then .ok (fillSlots fragment.parts values)
  else .error (.bindingMismatch fragment.slotCount values.length)

end Fragment

def furtherPredicates (bindings : BindingList) :
    List Predicate → Except QueryError (List Piece)
  | [] => .ok []
  | predicate :: rest => do
      let own ← predicate.fragment.pieces bindings
      let others ← furtherPredicates bindings rest
      pure (.sql " " :: .sql predicate.combinator.text :: .sql " " :: own ++ others)

def predicatePieces (keyword : String) (bindings : BindingList) :
    List Predicate → Except QueryError (List Piece)
  | [] => .ok []
  | first :: rest => do
      let own ← first.fragment.pieces bindings
      let others ← furtherPredicates bindings rest
      pure (.sql (" " ++ keyword ++ " ") :: own ++ others)

def rowsOf {α : Type} (width : Nat) : Nat → List α → List (List α)
  | 0, _ => []
  | count + 1, cells => cells.take width :: rowsOf width count (cells.drop width)

def slotList (values : List Value) : List Piece :=
  (values.map (fun value => [Piece.slot value])).intersperse [.sql ", "] |>.flatten

namespace Insert

def pieces (insert : Insert) (bindings : BindingList) : Except QueryError (List Piece) :=
  let values := bindings.slice insert.span
  let width := insert.columns.length
  if width = 0 || values.length ≠ width * insert.rowCount then
    .error (.bindingMismatch (width * insert.rowCount) values.length)
  else
    let rows := (rowsOf width insert.rowCount values).map
      (fun row => Piece.sql "(" :: slotList row ++ [.sql ")"])
    .ok (.sql ("INSERT INTO " ++ insert.table ++ " (" ++ commaSeparated insert.columns ++
      ") VALUES ") :: (rows.intersperse [.sql ", "]).flatten)

end Insert

namespace Update

def assignments (columns : List String) (values : List Value) : List Piece :=
  ((columns.zip values).map
    (fun cell => [Piece.sql (cell.1 ++ " = "), .slot cell.2])).intersperse [.sql ", "] |>.flatten

def pieces (update : Update) (bindings : BindingList) : Except QueryError (List Piece) :=
  let values := bindings.slice update.span
  if values.length = update.columns.length then
    .ok (.sql ("UPDATE " ++ update.table ++ " SET ") :: assignments update.columns values)
  else .error (.bindingMismatch update.columns.length values.length)

end Update

namespace Source

def text (source : Source) : String :=
  " FROM " ++ source.rendered ++
    (match source.aliasName with
      | none => ""
      | some aliasName => " AS " ++ aliasName)

end Source

namespace Join

def text (join : Join) : String :=
  " " ++ join.kind.text ++ " " ++ join.table ++
    (match join.condition with
      | none => ""
      | some condition => " ON " ++ condition)

end Join

namespace Order

def text (order : Order) : String :=
  if order.raw then order.column else order.column ++ " " ++ order.direction.text

end Order

namespace Clauses

def projectionText (clauses : Clauses) : String :=
  "SELECT " ++ (if clauses.distinct then "DISTINCT " else "") ++
    (if clauses.columns.isEmpty then "*" else commaSeparated clauses.columns)

def sourceText (clauses : Clauses) : String :=
  (match clauses.source with
    | none => ""
    | some source => source.text) ++ String.join (clauses.joins.map Join.text)

def groupText (clauses : Clauses) : String :=
  if clauses.groups.isEmpty then "" else " GROUP BY " ++ commaSeparated clauses.groups

def orderText (clauses : Clauses) : String :=
  if clauses.orders.isEmpty then ""
  else " ORDER BY " ++ commaSeparated (clauses.orders.map Order.text)

def pagingText (profile : Profile) (clauses : Clauses) : String :=
  let paging := profile.limitOffset clauses.limit clauses.offset (!clauses.orders.isEmpty)
  if paging.isEmpty then "" else " " ++ paging

def selectPieces (profile : Profile) (clauses : Clauses) : Except QueryError (List Piece) := do
  let wheres ← predicatePieces "WHERE" clauses.bindings clauses.wheres
  let havings ← predicatePieces "HAVING" clauses.bindings clauses.havings
  pure (.sql (clauses.projectionText ++ clauses.sourceText) :: wheres ++
    .sql clauses.groupText :: havings ++
    [.sql (clauses.orderText ++ clauses.pagingText profile)])

/-- An insertion goes before an update, an update before a deletion, a deletion before a read. -/
def pieces (profile : Profile) (clauses : Clauses) : Except QueryError (List Piece) :=
  match clauses.insert, clauses.update, clauses.delete with
  | some insert, _, _ => insert.pieces clauses.bindings
  | none, some update, _ => do
      let changes ← update.pieces clauses.bindings
      let wheres ← predicatePieces "WHERE" clauses.bindings clauses.wheres
      pure (changes ++ wheres)
  | none, none, some delete => do
      let wheres ← predicatePieces "WHERE" clauses.bindings clauses.wheres
      pure (.sql ("DELETE FROM " ++ delete.table) :: wheres)
  | none, none, none => clauses.selectPieces profile

/-- A raw statement stands for everything else and is passed on as it is. -/
def compile (profile : Profile) (clauses : Clauses) : Except QueryError Statement :=
  match clauses.raw with
  | some raw => .ok ⟨raw.sql, clauses.bindings.slice raw.span⟩
  | none => do
      let pieces ← clauses.pieces profile
      pure (Piece.statement profile pieces)

end Clauses

end BoundQuery
