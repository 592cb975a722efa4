import BoundQuery.Proofs.Alignment
import BoundQuery.Proofs.Reading

/-!
What an engine sends. The executor keeps a record of its exchanges that no operation looks at; where
nothing is read through a cache, each request is one exchange.
-/

set_option autoImplicit false

namespace BoundQuery

structure Exchange where
  statement : Statement
  answer : Except QueryError QueryOutput

/-- A world with its exchanges, in their order. -/
structure Logged (World : Type) where
  world : World
  sent : List Exchange := []

variable {World : Type}

def Executor.logged (executor : Executor World) : Executor (Logged World) :=
  { query := fun sql bindings logged =>
      let result := executor.query sql bindings logged.world
      (result.1, ⟨result.2, logged.sent ++ [⟨⟨sql, bindings⟩, result.1⟩]⟩)
    execute := fun sql bindings logged =>
      let result := executor.execute sql bindings logged.world
      (result.1, { logged with world := result.2 }) }

namespace Session

def sent (session : Session (Logged World)) : List Exchange :=
  session.world.sent

def exchange (executor : Executor World) (statement : Statement)
    (session : Session (Logged World)) : Exchange :=
  ⟨statement, (executor.query statement.sql statement.bindings session.world.world).1⟩

def afterExchange (executor : Executor World) (statement : Statement)
    (session : Session (Logged World)) : Session (Logged World) :=
  { session with
    world := ⟨(executor.query statement.sql statement.bindings session.world.world).2,
      session.sent ++ [session.exchange executor statement]⟩ }

/-- What was sent between two sessions, statement by statement. -/
def Sends (before after : Session (Logged World)) (statements : List Statement) : Prop :=
  ∃ log, after.sent = before.sent ++ log ∧ log.map Exchange.statement = statements

variable {executor : Executor World} {session after : Session (Logged World)}
variable {statement : Statement} {rest : List Statement}

theorem Sends.last : Sends session (session.afterExchange executor statement) [statement] :=
  ⟨[session.exchange executor statement], rfl, rfl⟩

theorem Sends.step (later : Sends (session.afterExchange executor statement) after rest) :
    Sends session after (statement :: rest) := by
  obtain ⟨log, grown, sent⟩ := later
  refine ⟨session.exchange executor statement :: log, ?_, ?_⟩
  · rw [grown]
    exact List.append_assoc _ _ _
  · rw [List.map_cons, sent]
    rfl

end Session

namespace Engine

variable (engine : Engine (Logged World)) (builder : Builder)

/-- Nothing that the builder asks for is read through a cache. -/
def Uncached : Prop :=
  engine.cache = none ∨ builder.directive.enabled = false

def shown : Row → Row :=
  match engine.decryptor with
  | some decryptor => decryptor.decryptRow builder.encrypted
  | none => id

/-- The rows of an answer as the reader gets them, or the error with its statement. -/
def received (exchange : Exchange) : Except QueryError (List Row) :=
  (exchange.answer.mapError (fun error =>
    error.attachStatement exchange.statement.sql exchange.statement.bindings)).map
      (fun output => output.rows.map (engine.shown builder))

theorem decrypt_rows (output : QueryOutput) :
    (engine.decrypt builder output).rows = output.rows.map (engine.shown builder) := by
  unfold decrypt shown
  cases engine.decryptor with
  | none => exact (List.map_id _).symm
  | some decryptor => rfl

theorem directiveFor_enabled (request : Request) (statement : Statement) :
    (engine.directiveFor builder request statement).enabled = builder.directive.enabled := by
  have derived : (engine.derivedDirective builder statement).enabled =
      builder.directive.enabled := by
    unfold derivedDirective
    split
    · rfl
    · rfl
  cases request with
  | whole => rfl
  | _ => exact derived

variable {engine builder} {executor : Executor World} {request : Request} {statement : Statement}

theorem read_rows (records : engine.executor = executor.logged)
    (uncached : engine.Uncached builder) (made : builder.statementOf request = .ok statement)
    (session : Session (Logged World)) :
    (QueryOutput.rows <$> engine.read builder request).run session =
      (engine.received builder (session.exchange executor statement),
        session.afterExchange executor statement) := by
  have direct : engine.fetchWith builder statement (request.mayCache engine.config)
      (engine.directiveFor builder request statement) =
        (do let output ← engine.runQuery statement
            pure (engine.decrypt builder output)) := by
    unfold fetchWith
    cases kept : engine.cache with
    | none => rfl
    | some cache =>
        rcases uncached with absent | disabled
        · rw [absent] at kept
          cases kept
        · rw [directiveFor_enabled, disabled, Bool.and_false]
          rfl
  have asked : QueryOutput.rows <$> engine.read builder request =
      (fun output => (engine.decrypt builder output).rows) <$> engine.runQuery statement := by
    have whole : engine.read builder request =
        (do let output ← engine.runQuery statement
            pure (engine.decrypt builder output)) := by
      unfold read
      rw [made, ← direct]
      rfl
    rw [whole]
    simp only [map_eq_pure_bind, bind_assoc, pure_bind]
  have sent : (engine.runQuery statement).run session =
      ((session.exchange executor statement).answer.mapError
          (fun error => error.attachStatement statement.sql statement.bindings),
        session.afterExchange executor statement) := by
    unfold runQuery
    rw [records]
    rfl
  rw [asked, Action.run_map, sent]
  simp only [decrypt_rows]
  rfl

theorem fetchPage_run (records : engine.executor = executor.logged)
    (uncached : engine.Uncached builder) {offset size : Nat}
    (made : builder.statementOf (.page offset size) = .ok statement)
    (session : Session (Logged World)) :
    (engine.fetchPage builder offset size).run session =
      (engine.received builder (session.exchange executor statement),
        session.afterExchange executor statement) := by
  rw [fetchPage_eq_read]
  exact read_rows records uncached made session

theorem cursorPaginate_run (records : engine.executor = executor.logged)
    (uncached : engine.Uncached builder) {column : String} {cursor : Option Value} {limit : Int}
    (positive : 1 ≤ limit)
    (made : builder.statementOf (.cursor column cursor limit.toNat) = .ok statement)
    (session : Session (Logged World)) :
    (engine.cursorPaginate builder column cursor limit).run session =
      ((engine.received builder (session.exchange executor statement)).map
          (fun rows => cursorPage column limit.toNat { rows := rows }),
        session.afterExchange executor statement) := by
  have asked : engine.cursorPaginate builder column cursor limit =
      (fun rows => cursorPage column limit.toNat { rows := rows }) <$>
        QueryOutput.rows <$> engine.read builder (.cursor column cursor limit.toNat) := by
    rw [cursorPaginate_eq_read engine builder column cursor limit positive, ← comp_map]
    rfl
  rw [asked, Action.run_map, read_rows records uncached made]

end Engine

end BoundQuery
