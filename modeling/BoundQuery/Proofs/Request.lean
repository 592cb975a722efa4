import BoundQuery.Engine.Paging

/-!
Every read of an engine sends one of a few statements made from its builder. A request names such a
statement; `Engine.read` sends it, through the cache where that is asked for. Each reading operation
is a function of the answers to its requests.
-/

set_option autoImplicit false

namespace BoundQuery

inductive Aggregate where
  | sum
  | average
  | minimum
  | maximum
deriving DecidableEq

def Aggregate.text : Aggregate → String
  | .sum => "SUM"
  | .average => "AVG"
  | .minimum => "MIN"
  | .maximum => "MAX"

/-- A builder's own statement, or one made from it for one reading operation. -/
inductive Request where
  | whole
  | limited (count : Nat)
  | page (offset size : Nat)
  | count
  | aggregate (function : Aggregate) (column : String)
  | presence
  | column (name : String)
  | pair (value key : String)
  | cursor (column : String) (after : Option Value) (limit : Nat)

def Builder.statementOf (builder : Builder) : Request → Except QueryError Statement
  | .whole => builder.statement
  | .limited count => { builder.clauses with limit := some count }.compile builder.profile
  | .page offset size =>
      { builder.clauses with limit := some size, offset := some offset }.compile builder.profile
  | .count => builder.aggregateStatement "COUNT(*)"
  | .aggregate function column => do
      let rendered ← builder.profile.column column
      builder.aggregateStatement (function.text ++ "(" ++ rendered ++ ")")
  | .presence => do
      Engine.requireSelect builder "exists"
      { builder.clauses with
        columns := ["1 AS present"], orders := [], limit := some 1 }.compile builder.profile
  | .column name => do
      Engine.requireSelect builder "pluck"
      let rendered ← builder.profile.column name
      { builder.clauses with columns := [rendered] }.compile builder.profile
  | .pair value key => do
      Engine.requireSelect builder "pluck_key_value"
      let first ← builder.profile.column value
      let second ← builder.profile.column key
      { builder.clauses with columns := [first, second] }.compile builder.profile
  | .cursor column after limit => do
      let rendered ← builder.profile.column column
      (builder.cursorClauses rendered after limit).compile builder.profile

/-- Aggregates are read through the cache only if the settings say so. -/
def Request.mayCache (config : EngineConfig) : Request → Bool
  | .count => config.aggregatesUseCache
  | .aggregate _ _ => config.aggregatesUseCache
  | .presence => config.aggregatesUseCache
  | _ => true

namespace Engine

variable {World : Type}

/-- The builder's own directive for its own statement, a derived one for any other. -/
def directiveFor (engine : Engine World) (builder : Builder) (request : Request)
    (statement : Statement) : CacheDirective :=
  match request with
  | .whole => builder.directive
  | _ => engine.derivedDirective builder statement

def read (engine : Engine World) (builder : Builder) (request : Request) :
    Action World QueryOutput := do
  let statement ← builder.statementOf request
  engine.fetchWith builder statement (request.mayCache engine.config)
    (engine.directiveFor builder request statement)

variable (engine : Engine World) (builder : Builder)

-- Nothing here is recursive, so the definitions are put in as they stand, without equations.

theorem get_eq_read :
    engine.get builder = QueryOutput.rows <$> engine.read builder .whole := by
  delta get read Builder.statementOf Request.mayCache directiveFor
  simp

theorem fetchLimited_eq_read (count : Nat) :
    engine.fetchClauses builder { builder.clauses with limit := some count } =
      QueryOutput.rows <$> engine.read builder (.limited count) := by
  delta fetchClauses fetchDerived read Builder.statementOf Request.mayCache directiveFor
  simp

theorem first_eq_read :
    engine.first builder =
      (fun output => output.rows.head?) <$> engine.read builder (.limited 1) := by
  delta first
  rw [fetchLimited_eq_read]
  simp

theorem fetchPage_eq_read (offset size : Nat) :
    engine.fetchPage builder offset size =
      QueryOutput.rows <$> engine.read builder (.page offset size) := by
  delta fetchPage fetchClauses fetchDerived read Builder.statementOf Request.mayCache directiveFor
  simp

theorem sole_eq_read :
    engine.sole builder = (do
      let output ← engine.read builder (.limited 2)
      match output.rows with
      | [] => throw ((QueryError.notFound (tableLabel builder)).during "sole")
      | [row] => pure row
      | _ => throw ((QueryError.notUnique (tableLabel builder)).during "sole")) := by
  delta sole
  rw [fetchLimited_eq_read]
  exact bind_map_left _ _ _

theorem count_eq_read :
    engine.count builder =
      (fun output => (countOf? (aggregateOf output.rows)).getD 0) <$>
        engine.read builder .count := by
  delta count aggregate fetchDerived read Builder.statementOf Request.mayCache directiveFor
  simp

theorem aggregateColumn_eq_read (function : Aggregate) (column : String) :
    engine.aggregateColumn builder function.text column =
      (fun output => aggregateOf output.rows) <$>
        engine.read builder (.aggregate function column) := by
  delta aggregateColumn aggregate fetchDerived read Builder.statementOf Request.mayCache
    directiveFor
  simp

theorem hasRows_eq_read :
    engine.hasRows builder =
      (fun output => !output.rows.isEmpty) <$> engine.read builder .presence := by
  delta hasRows fetchDerived read Builder.statementOf Request.mayCache directiveFor
  simp

theorem pluck_eq_read (column : String) :
    engine.pluck builder column =
      (fun output => output.rows.map (fun row => (row.lookup (resultKey column)).getD .null)) <$>
        engine.read builder (.column column) := by
  delta pluck fetchClauses fetchDerived read Builder.statementOf Request.mayCache directiveFor
  simp

theorem pluckPairs_eq_read (value key : String) :
    engine.pluckPairs builder value key =
      (fun output => keyedPairs (resultKey value) (resultKey key) output.rows) <$>
        engine.read builder (.pair value key) := by
  delta pluckPairs fetchClauses fetchDerived read Builder.statementOf Request.mayCache directiveFor
  simp

/-- One row more than the page holds tells whether there are more. -/
def cursorPage (column : String) (limit : Nat) (output : QueryOutput) : CursorPage :=
  let data := output.rows.take limit
  let hasMore := limit < output.rows.length
  let next := data.getLast?.bind (fun row => row.lookup (resultKey column))
  ⟨data, hasMore, if hasMore then next.map Value.ofJson else none⟩

theorem cursorPaginate_eq_read (column : String) (cursor : Option Value) (limit : Int)
    (positive : 1 ≤ limit) :
    engine.cursorPaginate builder column cursor limit =
      cursorPage column limit.toNat <$>
        engine.read builder (.cursor column cursor limit.toNat) := by
  have notLess : ¬limit < 1 := by omega
  delta cursorPaginate fetchClauses fetchDerived read Builder.statementOf Request.mayCache
    directiveFor
  simp only [if_neg notLess, bind_assoc, pure_bind, map_eq_pure_bind, liftM_bind]
  rfl

end Engine

end BoundQuery
