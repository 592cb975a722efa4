import BoundQuery.Error
import BoundQuery.Value

/-!
What runs statements, and its answers. An answer to a query has a JSON form in which it is kept by a
cache.
-/

set_option autoImplicit false

namespace BoundQuery

/-- Fields are the column names, where the executor reported them. -/
structure QueryOutput where
  rows : List Row := []
  rowCount : Nat := 0
  fields : Option (List String) := none

structure ExecOutput where
  affectedRows : Nat := 0
  insertId : Option Value := none

structure Executor (World : Type) where
  query : String → List Value → StateM World (Except QueryError QueryOutput)
  execute : String → List Value → StateM World (Except QueryError ExecOutput)

namespace QueryOutput

def toJson (output : QueryOutput) : Json :=
  Json.ofMembers
    ([("rows", .array (output.rows.map .object)), ("row_count", .number (.int output.rowCount))] ++
      (match output.fields with
        | none => []
        | some names => [("fields", .array (names.map .string))]))

def row? : Json → Option Row
  | .object members => some members
  | _ => none

def rows? : Json → Option (List Row)
  | .array items => items.mapM row?
  | _ => none

def count? : Json → Option Nat
  | .number (.int number) => if 0 ≤ number then some number.toNat else none
  | _ => none

def text? : Json → Option String
  | .string text => some text
  | _ => none

def texts? : Json → Option (List String)
  | .array items => items.mapM text?
  | _ => none

def fields? : Option Json → Option (Option (List String))
  | none => some none
  | some .null => some none
  | some names => (texts? names).map some

def ofParts? (rows count : Json) (fields : Option Json) : Option QueryOutput := do
  pure ⟨← rows? rows, ← count? count, ← fields? fields⟩

/-- An object with the members of an answer and any others, or an array of their values in order. -/
def ofJson? : Json → Option QueryOutput
  | .object members => do
      ofParts? (← members.lookup "rows") (← members.lookup "row_count") (members.lookup "fields")
  | .array [rows, count] => ofParts? rows count none
  | .array [rows, count, fields] => ofParts? rows count (some fields)
  | _ => none

end QueryOutput

end BoundQuery
