import BoundQuery.Engine.Basic

/-!
Executing statements. A write drops the cached results of the tables that it changes.
-/

set_option autoImplicit false

namespace BoundQuery

namespace Builder

/-- The tables that a statement of this builder changes. A raw statement that reads changes none,
other raw statements all that they name, and a write its source. -/
def writtenTables (builder : Builder) (sql : String) : List String :=
  if builder.clauses.raw.isSome then
    if isReadStatement sql then [] else referencedTables sql
  else if builder.clauses.isWrite then
    match builder.clauses.tableName with
    | some name => (referencedTables ("FROM " ++ name)).take 1
    | none => []
  else []

end Builder

namespace Engine

variable {World : Type}

def invalidateWritten (engine : Engine World) (tables : List String) :
    StateM (Session World) Unit := do
  match engine.cache with
  | some cache =>
      if cache.config.invalidateOnWrite && !tables.isEmpty then
        let _ ← cache.invalidate { tables := tables }
        pure ()
      else pure ()
  | none => pure ()

def runExecute (engine : Engine World) (statement : Statement) : Action World ExecOutput :=
  ExceptT.mk (do
    let outcome ← Session.inWorld (engine.executor.execute statement.sql statement.bindings)
    pure (outcome.mapError
      (fun error => error.attachStatement statement.sql statement.bindings)))

/-- Nothing is dropped when the statement fails. -/
def execute (engine : Engine World) (builder : Builder) : Action World ExecOutput := do
  let statement ← builder.statement
  let output ← engine.runExecute statement
  engine.invalidateWritten (builder.writtenTables statement.sql)
  pure output

end Engine

end BoundQuery
