import BoundQuery.Proofs.Chronicle

/-!
The moves of each operation, and the events among them. A read stores a result after a miss, a
warm-up stores each result that it may, an invalidation drops every key that it reaches, and a write
that has been executed invalidates.
-/

set_option autoImplicit false

namespace BoundQuery

variable {Outside : Type}

namespace Setup

variable (setup : Setup Outside)

def eventsOfFetch (statement : Statement) (directive : CacheDirective)
    (session : Session (Site Outside)) : List Event :=
  match (setup.engine.runQuery statement).run session with
  | (.error _, _) => []
  | (.ok output, after) =>
      if setup.cache.isCacheable statement output then
        [.stored (setup.cache.keyFor statement directive) (.result statement output)
          (setup.clock after.world.outside) (directive.ttl.getD setup.caching.defaultTtl)]
      else []

def eventsOfRead (builder : Builder) (request : Request)
    (session : Session (Site Outside)) : List Event :=
  match setup.engine.keyOf? builder request with
  | none => []
  | some (key, statement) =>
      match setup.cache.get QueryOutput.ofJson? key session with
      | (some _, _) => []
      | (none, missed) =>
          setup.eventsOfFetch statement (setup.engine.directiveFor builder request statement) missed

def eventsOfWarmup : List Builder → Session (Site Outside) → List Event
  | [], _ => []
  | builder :: rest, session =>
      match builder.statement with
      | .error _ => []
      | .ok statement =>
          setup.eventsOfFetch statement builder.directive session ++
            match (setup.fetchAndStore statement builder.directive).run session with
            | (.error _, _) => []
            | (.ok _, after) => eventsOfWarmup rest after

/-- The keys that an invalidation drops: those under its names and those that a sweep finds. -/
def reached (target : Invalidation) (session : Session (Site Outside)) : List String :=
  insertKeys [] ((session.cache.takeNames target).1 ++
    if setup.caching.patternInvalidation then
      (setup.cache.sweep target.names (namesTaken session target)).1
    else [])

def eventsOfInvalidation (target : Invalidation) (session : Session (Site Outside)) : List Event :=
  (setup.reached target session).map .dropped

def eventsOfExecute (builder : Builder) (session : Session (Site Outside)) : List Event :=
  match builder.statement with
  | .error _ => []
  | .ok statement =>
      match (setup.engine.runExecute statement).run session with
      | (.error _, _) => []
      | (.ok _, after) =>
          let tables := builder.writtenTables statement.sql
          if setup.caching.invalidateOnWrite && !tables.isEmpty then
            setup.eventsOfInvalidation { tables := tables } after
          else []

end Setup

namespace Step

def events (setup : Setup Outside) (session : Session (Site Outside)) : Step Outside → List Event
  | read builder request => setup.eventsOfRead builder request session
  | execute builder => setup.eventsOfExecute builder session
  | warmup builders => setup.eventsOfWarmup builders session
  | put key value ttl =>
      [.stored key (.value value) (setup.clock session.world.outside)
        (ttl.getD setup.caching.defaultTtl)]
  | erase key => [.dropped key]
  | invalidate target => setup.eventsOfInvalidation target session
  | clear => [.cleared]
  | _ => []

/-- What happens in a whole run, in order. -/
def eventsOf (setup : Setup Outside) : Session (Site Outside) → List (Step Outside) → List Event
  | _, [] => []
  | session, step :: rest =>
      step.events setup session ++ eventsOf setup (step.apply setup session) rest

end Step

/-! ### The moves of an operation -/

/-- What the executor does to the world outside may pass. -/
structure Setup.Allows (setup : Setup Outside) (passes : Outside → Outside → Prop) : Prop where
  query : ∀ sql bindings outside, passes outside (setup.executor.query sql bindings outside).2
  execute : ∀ sql bindings outside, passes outside (setup.executor.execute sql bindings outside).2

/-- So may what a step of its own does there. -/
def Step.Allowed (passes : Outside → Outside → Prop) : Step Outside → Prop
  | outside change => ∀ world, passes world (change world)
  | _ => True

theorem Setup.allows_all (setup : Setup Outside) : setup.Allows (fun _ _ => True) :=
  ⟨fun _ _ _ => trivial, fun _ _ _ => trivial⟩

theorem Step.allowed_all (step : Step Outside) : step.Allowed (fun _ _ => True) := by
  cases step with
  | outside change => exact fun _ => trivial
  | _ => trivial

namespace Setup

variable {setup : Setup Outside} {passes : Outside → Outside → Prop}
variable (session : Session (Site Outside))

theorem get_moves {Item : Type} (decode? : Json → Option Item) (key : String) :
    Moves setup passes [] session.world (setup.cache.get decode? key session).2.world := by
  rw [ResultCache.get_world]
  exact (Move.looked session.world key).moves

theorem set_moves (key : String) (content : Content) (ttl : Option Nat) :
    Moves setup passes
      [.stored key content (setup.clock session.world.outside)
        (ttl.getD setup.caching.defaultTtl)]
      session.world (setup.cache.set key content.json ttl session).2.world :=
  (Move.stored session.world key content _).moves

theorem delete_moves (key : String) :
    Moves setup passes [.dropped key] session.world (setup.cache.delete key session).2.world := by
  have removed : (setup.cache.delete key session).2.world =
      { session.world with store := session.world.store.remove key } := by
    unfold ResultCache.delete
    simp only [bind, StateT.bind, forget_run, removal_run]
    generalize (session.world.store.find? key).isSome = held
    cases held with
    | true => rfl
    | false => rfl
  rw [removed]
  exact (Move.dropped session.world key).moves

theorem dropKeys_moves (keys : List String) :
    ∀ session : Session (Site Outside), Moves setup passes (keys.map .dropped) session.world
      (setup.cache.dropKeys keys session).2.world := by
  induction keys with
  | nil => exact fun session => .refl session.world
  | cons key rest ih =>
      intro session
      rw [dropKeys_cons]
      exact .step (.dropped session.world key) (ih (dropped session key))

theorem invalidate_eq (setup : Setup Outside) (target : Invalidation) :
    setup.cache.invalidate target session =
      let dropped := setup.cache.dropKeys (setup.reached target session)
        (namesTaken session target)
      (dropped.1, { dropped.2 with cache :=
        { dropped.2.cache with stats := dropped.2.cache.stats.countDeletes dropped.1 } }) := by
  unfold ResultCache.invalidate reached
  by_cases scanning : setup.caching.patternInvalidation = true
  · have enabled : (setup.cache.config.patternInvalidation &&
        setup.cache.adapter.scansPatterns) = true := by
      rw [Bool.and_eq_true]
      exact ⟨scanning, rfl⟩
    simp only [scanning, enabled, if_true]
    rw [sweep_eq]
    rfl
  · have disabled : ¬(setup.cache.config.patternInvalidation &&
        setup.cache.adapter.scansPatterns) = true := by
      intro both
      exact scanning (Bool.and_eq_true_iff.mp both).1
    simp only [scanning, disabled]
    rfl

theorem invalidate_moves (target : Invalidation) :
    Moves setup passes (setup.eventsOfInvalidation target session) session.world
      (setup.cache.invalidate target session).2.world := by
  rw [invalidate_eq]
  exact dropKeys_moves (setup.reached target session) (namesTaken session target)

theorem runQuery_moves (allows : setup.Allows passes) (statement : Statement) :
    Moves setup passes [] session.world
      ((setup.engine.runQuery statement).run session).2.world :=
  Move.moves (.elsewhere rfl (allows.query statement.sql statement.bindings session.world.outside))

theorem runExecute_moves (allows : setup.Allows passes) (statement : Statement) :
    Moves setup passes [] session.world
      ((setup.engine.runExecute statement).run session).2.world :=
  Move.moves
    (.elsewhere rfl (allows.execute statement.sql statement.bindings session.world.outside))

theorem storeOutput_moves (statement : Statement) (directive : CacheDirective)
    (output : QueryOutput) :
    Moves setup passes
      (if setup.cache.isCacheable statement output then
        [.stored (setup.cache.keyFor statement directive) (.result statement output)
          (setup.clock session.world.outside) (directive.ttl.getD setup.caching.defaultTtl)]
      else [])
      session.world (setup.cache.storeOutput statement directive output session).2.world := by
  unfold ResultCache.storeOutput
  by_cases kept : setup.cache.isCacheable statement output = true
  · rw [if_pos kept, if_neg (by simp [kept])]
    exact set_moves session _ (.result statement output) directive.ttl
  · rw [if_neg kept, if_pos (by simp [kept])]
    exact .refl session.world

theorem fetchAndStore_moves (allows : setup.Allows passes) (statement : Statement)
    (directive : CacheDirective) :
    Moves setup passes (setup.eventsOfFetch statement directive session) session.world
      ((setup.fetchAndStore statement directive).run session).2.world := by
  have asked := runQuery_moves session allows statement
  rw [fetchAndStore_run]
  unfold eventsOfFetch
  cases ran : (setup.engine.runQuery statement).run session with
  | mk outcome after =>
      rw [ran] at asked
      cases outcome with
      | error error => exact asked
      | ok output => exact asked.trans (storeOutput_moves after statement directive output)

theorem read_moves (allows : setup.Allows passes) (builder : Builder) (request : Request) :
    Moves setup passes (setup.eventsOfRead builder request session) session.world
      ((setup.engine.read builder request).run session).2.world := by
  unfold eventsOfRead
  cases made : builder.statementOf request with
  | error error =>
      rw [read_refused setup session made, keyOf?_refused setup made]
      exact .refl session.world
  | ok statement =>
      rw [read_run setup session made, keyOf?_eq setup made]
      by_cases enabled : (request.mayCache setup.config &&
        (setup.engine.directiveFor builder request statement).enabled) = true
      · simp only [if_pos enabled, readThrough_run]
        have looked : Moves setup passes [] session.world
            (setup.cache.get QueryOutput.ofJson? (setup.cache.keyFor statement
              (setup.engine.directiveFor builder request statement)) session).2.world :=
          get_moves session _ _
        cases ran : setup.cache.get QueryOutput.ofJson? (setup.cache.keyFor statement
          (setup.engine.directiveFor builder request statement)) session with
        | mk found after =>
            rw [ran] at looked
            cases found with
            | some output => exact looked
            | none => exact looked.trans (fetchAndStore_moves after allows statement _)
      · simp only [if_neg enabled]
        exact runQuery_moves session allows statement

theorem warmup_moves (allows : setup.Allows passes) (builders : List Builder) :
    ∀ session : Session (Site Outside),
      Moves setup passes (setup.eventsOfWarmup builders session) session.world
        ((setup.engine.warmup setup.cache builders).run session).2.world := by
  induction builders with
  | nil => exact fun session => .refl session.world
  | cons builder rest ih =>
      intro session
      unfold eventsOfWarmup
      rw [warmup_run]
      cases builder.statement with
      | error error => exact .refl session.world
      | ok statement =>
          have fetched := fetchAndStore_moves session allows statement builder.directive
          dsimp only
          cases ran : (setup.fetchAndStore statement builder.directive).run session with
          | mk outcome after =>
              rw [ran] at fetched
              cases outcome with
              | error error =>
                  rw [List.append_nil]
                  exact fetched
              | ok output => exact fetched.trans (ih after)

theorem execute_moves (allows : setup.Allows passes) (builder : Builder) :
    Moves setup passes (setup.eventsOfExecute builder session) session.world
      ((setup.engine.execute builder).run session).2.world := by
  unfold eventsOfExecute
  rw [execute_run]
  cases builder.statement with
  | error error => exact .refl session.world
  | ok statement =>
      have executed := runExecute_moves session allows statement
      dsimp only
      cases ran : (setup.engine.runExecute statement).run session with
      | mk outcome after =>
          rw [ran] at executed
          cases outcome with
          | error error => exact executed
          | ok output =>
              dsimp only
              rw [invalidateWritten_run]
              split
              · exact executed.trans (invalidate_moves after _)
              · exact executed

end Setup

namespace Step

variable {setup : Setup Outside} {passes : Outside → Outside → Prop}

theorem apply_moves (allows : setup.Allows passes) {step : Step Outside}
    (allowed : step.Allowed passes) (session : Session (Site Outside)) :
    Moves setup passes (step.events setup session) session.world
      (step.apply setup session).world := by
  cases step with
  | read builder request => exact Setup.read_moves session allows builder request
  | execute builder => exact Setup.execute_moves session allows builder
  | warmup builders => exact Setup.warmup_moves allows builders session
  | lookUp accepts key => exact Setup.get_moves session _ key
  | holds key => exact .refl session.world
  | put key value ttl => exact Setup.set_moves session key (.value value) ttl
  | erase key => exact Setup.delete_moves session key
  | invalidate target => exact Setup.invalidate_moves session target
  | clear => exact (Move.cleared session.world).moves
  | evictExpired => exact (Move.expired session.world).moves
  | resetStats => exact .refl session.world
  | outside change => exact Move.moves (.elsewhere rfl (allowed session.world.outside))

theorem run_moves (allows : setup.Allows passes) {steps : List (Step Outside)} :
    ∀ session : Session (Site Outside), (∀ step ∈ steps, step.Allowed passes) →
      Moves setup passes (eventsOf setup session steps) session.world
        (run setup session steps).world := by
  induction steps with
  | nil => exact fun session _ => .refl session.world
  | cons step rest ih =>
      intro session allowed
      have first := apply_moves allows (allowed step List.mem_cons_self) session
      have others := ih (step.apply setup session)
        (fun other member => allowed other (List.mem_cons_of_mem step member))
      exact first.trans others

/-- A reading operation is a run of reads, one for each of its requests. -/
theorem run_of_terminal {Result : Type} (terminal : Terminal Result) (builder : Builder)
    (session : Session (Site Outside)) :
    let program := terminal.program setup.config (Engine.tableLabel builder)
    (terminal.run setup.engine builder session).2 =
      run setup session ((setup.engine.trace builder program session).map
        (fun asked => read builder asked.1)) := by
  intro program
  rw [Engine.run_eq_perform]
  change (setup.engine.perform builder program session).2 = _
  induction program generalizing session with
  | done result => rfl
  | ask request next ih => exact ih _ ((setup.engine.read builder request).run session).2

end Step

end BoundQuery
