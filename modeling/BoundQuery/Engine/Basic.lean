import BoundQuery.Builder.Call
import BoundQuery.Cache.Result
import BoundQuery.Engine.Decrypt

/-!
An engine: what runs the statements, how they are spelled, and the cache through which results may
be read. A builder's own statement is kept under the caller's key as it is; every statement derived
from the builder gets a key of its own below it.
-/

set_option autoImplicit false

namespace BoundQuery

structure Engine (World : Type) where
  executor : Executor World
  profile : Profile
  config : EngineConfig := {}
  cache : Option (ResultCache World) := none
  decryptor : Option Decryptor := none

namespace Engine

variable {World : Type}

def query (engine : Engine World) : Builder :=
  { profile := engine.profile, cacheable := engine.cache.isSome }

def table (engine : Engine World) (name : String) : Except QueryError Builder :=
  engine.query.apply (.readFrom name)

def runQuery (engine : Engine World) (statement : Statement) : Action World QueryOutput :=
  ExceptT.mk (do
    let outcome ← Session.inWorld (engine.executor.query statement.sql statement.bindings)
    pure (outcome.mapError
      (fun error => error.attachStatement statement.sql statement.bindings)))

def decrypt (engine : Engine World) (builder : Builder) (output : QueryOutput) : QueryOutput :=
  match engine.decryptor with
  | some decryptor =>
      { output with rows := decryptor.decryptRows builder.encrypted output.rows }
  | none => output

def fetchWith (engine : Engine World) (builder : Builder) (statement : Statement)
    (mayCache : Bool) (directive : CacheDirective) : Action World QueryOutput := do
  let output ←
    match engine.cache with
    | some cache =>
        if mayCache && directive.enabled then
          cache.readThrough statement directive (engine.runQuery statement)
        else engine.runQuery statement
    | none => engine.runQuery statement
  pure (engine.decrypt builder output)

def derivedDirective (engine : Engine World) (builder : Builder) (statement : Statement) :
    CacheDirective :=
  match engine.cache, builder.directive.key with
  | some cache, some key =>
      { builder.directive with key := some (cache.scopedKey key statement) }
  | _, _ => builder.directive

def fetchDerived (engine : Engine World) (builder : Builder) (statement : Statement)
    (mayCache : Bool) : Action World QueryOutput :=
  engine.fetchWith builder statement mayCache (engine.derivedDirective builder statement)

def fetchClauses (engine : Engine World) (builder : Builder) (clauses : Clauses) :
    Action World (List Row) := do
  let statement ← clauses.compile builder.profile
  let output ← engine.fetchDerived builder statement true
  pure output.rows

def fetchPage (engine : Engine World) (builder : Builder) (offset size : Nat) :
    Action World (List Row) :=
  engine.fetchClauses builder
    { builder.clauses with limit := some size, offset := some offset }

/-- Refuses what cannot be asked of a pending write or a raw statement. -/
def requireSelect (builder : Builder) (terminal : String) : Except QueryError Unit :=
  if builder.clauses.raw.isSome || builder.clauses.isWrite then
    .error (.invalidArgument terminal
      "not available on a builder with a pending write or raw statement")
  else .ok ()

def tableLabel (builder : Builder) : String :=
  builder.clauses.tableName.getD "query"

/-- Runs each query and stores its result; the number of stored results. -/
def warmup (engine : Engine World) (cache : ResultCache World) :
    List Builder → Action World Nat
  | [] => pure 0
  | builder :: rest => do
      let statement ← builder.statement
      let output ← engine.runQuery statement
      let stored ← cache.storeOutput statement builder.directive output
      let others ← engine.warmup cache rest
      pure ((if stored then 1 else 0) + others)

end Engine

end BoundQuery
