import BoundQuery.Builder.Select

/-!
Pending writes and raw statements. A write keeps the table that was the source when it was asked
for, and leaves the other clauses alone.
-/

set_option autoImplicit false

namespace BoundQuery

namespace Clauses

def target (clauses : Clauses) (operation : String) : Except QueryError String :=
  match clauses.source with
  | some source => .ok source.rendered
  | none =>
      .error ((QueryError.invalidArgument "table"
        (operation ++ " requires a table; call from() first")).during operation)

def unevenRow (index : Nat) : QueryError :=
  .invalidArgument "insert"
    ("row " ++ toString index ++ " has a different column set than row 0")

/-- The values of a record in the order of the given names, which must be all of its names. -/
def rowValues (names : List String) (index : Nat) (record : Record) :
    Except QueryError (List Value) :=
  if record.length = names.length then
    match names.mapM (fun name => record.lookup name) with
    | some values => .ok values
    | none => .error (unevenRow index)
  else .error (unevenRow index)

def rowsValues (names : List String) : Nat → List Record → Except QueryError (List Value)
  | _, [] => .ok []
  | index, record :: rest => do
      let own ← rowValues names index record
      let others ← rowsValues names (index + 1) rest
      pure (own ++ others)

/-- The first record fixes the columns and their order. -/
def insertMany (clauses : Clauses) (profile : Profile) (records : List Record) :
    Except QueryError Clauses := do
  let table ← clauses.target "insert"
  match records with
  | [] => .error (.invalidArgument "insert" "at least one row is required")
  | first :: _ =>
      if first.isEmpty then
        .error (.invalidArgument "insert" "rows must have at least one column")
      else
        let columns ← profile.columns first.columns
        let values ← rowsValues first.columns 0 records
        let bound := clauses.bindings.append values
        pure { clauses with
          insert := some ⟨table, columns, records.length, bound.1⟩
          bindings := bound.2 }

def updateWith (clauses : Clauses) (profile : Profile) (changes : Record) :
    Except QueryError Clauses := do
  let table ← clauses.target "update"
  if changes.isEmpty then .error (.invalidArgument "update" "no columns to update")
  else
    let columns ← profile.columns changes.columns
    let bound := clauses.bindings.append (changes.map Prod.snd)
    pure { clauses with
      update := some ⟨table, columns, bound.1⟩
      bindings := bound.2 }

def deleteRows (clauses : Clauses) : Except QueryError Clauses := do
  let table ← clauses.target "delete"
  pure { clauses with delete := some ⟨table⟩ }

def withRaw (clauses : Clauses) (sql : String) (values : List Value) : Clauses :=
  let bound := clauses.bindings.append values
  { clauses with raw := some ⟨sql, bound.1⟩, bindings := bound.2 }

end Clauses

end BoundQuery
