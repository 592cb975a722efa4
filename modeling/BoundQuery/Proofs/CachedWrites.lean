import BoundQuery.Proofs.Lifetimes

/-!
Writes that are read. Where only the results of reading statements are stored, a write is not
answered from the cache because of anything that it has stored itself: its result never enters the
store. It is answered from there if something else lies under its key, the result of a reading
statement that was given the same key or a value put by hand.
-/

set_option autoImplicit false

namespace BoundQuery

/-! ### What is stored -/

/-- An event stores no result but that of a statement that only reads. -/
def Event.OnlyReads : Event → Prop
  | .stored _ (.result statement _) _ _ => isReadStatement statement.sql = true
  | _ => True

variable {Outside : Type}

namespace Setup

variable {setup : Setup Outside}

theorem isCacheable_of_write (selective : setup.caching.selectOnly = true)
    {statement : Statement} (writes : isReadStatement statement.sql = false)
    (output : QueryOutput) : setup.cache.isCacheable statement output = false := by
  have enabled : setup.cache.config.selectOnly = true := selective
  unfold ResultCache.isCacheable
  rw [enabled, writes]
  rfl

theorem eventsOfFetch_of_write (selective : setup.caching.selectOnly = true)
    {statement : Statement} (writes : isReadStatement statement.sql = false)
    (directive : CacheDirective) (session : Session (Site Outside)) :
    setup.eventsOfFetch statement directive session = [] := by
  unfold eventsOfFetch
  cases (setup.engine.runQuery statement).run session with
  | mk outcome after =>
      cases outcome with
      | error error => rfl
      | ok output =>
          simp only [isCacheable_of_write selective writes]
          rfl

theorem eventsOfFetch_onlyReads (selective : setup.caching.selectOnly = true)
    (statement : Statement) (directive : CacheDirective) (session : Session (Site Outside)) :
    ∀ event ∈ setup.eventsOfFetch statement directive session, event.OnlyReads := by
  intro event member
  cases reads : isReadStatement statement.sql with
  | false =>
      rw [eventsOfFetch_of_write selective reads] at member
      cases member
  | true =>
      unfold eventsOfFetch at member
      cases ran : (setup.engine.runQuery statement).run session with
      | mk outcome after =>
          rw [ran] at member
          cases outcome with
          | error error => cases member
          | ok output =>
              dsimp only at member
              split at member
              · rw [List.mem_singleton.mp member]
                exact reads
              · cases member

theorem eventsOfWarmup_onlyReads (selective : setup.caching.selectOnly = true)
    (builders : List Builder) :
    ∀ session, ∀ event ∈ setup.eventsOfWarmup builders session, event.OnlyReads := by
  induction builders with
  | nil =>
      intro session event none
      cases none
  | cons builder rest ih =>
      intro session event member
      unfold eventsOfWarmup at member
      cases made : builder.statement with
      | error error =>
          rw [made] at member
          cases member
      | ok statement =>
          rw [made] at member
          rcases List.mem_append.mp member with own | further
          · exact eventsOfFetch_onlyReads selective statement _ session event own
          · cases ran : (setup.fetchAndStore statement builder.directive).run session with
            | mk outcome after =>
                rw [ran] at further
                cases outcome with
                | error error => cases further
                | ok output => exact ih after event further

end Setup

theorem Setup.eventsOfInvalidation_onlyReads (setup : Setup Outside) (target : Invalidation)
    (session : Session (Site Outside)) :
    ∀ event ∈ setup.eventsOfInvalidation target session, event.OnlyReads := by
  intro event member
  obtain ⟨key, _, dropped⟩ := List.mem_map.mp member
  rw [← dropped]
  trivial

namespace Step

variable {setup : Setup Outside}

theorem events_onlyReads (selective : setup.caching.selectOnly = true)
    (session : Session (Site Outside)) (step : Step Outside) :
    ∀ event ∈ step.events setup session, event.OnlyReads := by
  intro event member
  cases step with
  | read builder request =>
      change event ∈ setup.eventsOfRead builder request session at member
      unfold Setup.eventsOfRead at member
      cases keyed : setup.engine.keyOf? builder request with
      | none =>
          rw [keyed] at member
          cases member
      | some use =>
          rw [keyed] at member
          dsimp only at member
          cases looked : setup.cache.get QueryOutput.ofJson? use.1 session with
          | mk found missed =>
              rw [looked] at member
              cases found with
              | some output => cases member
              | none => exact Setup.eventsOfFetch_onlyReads selective _ _ missed event member
  | execute builder =>
      change event ∈ setup.eventsOfExecute builder session at member
      unfold Setup.eventsOfExecute at member
      cases made : builder.statement with
      | error error =>
          rw [made] at member
          cases member
      | ok statement =>
          rw [made] at member
          dsimp only at member
          cases ran : (setup.engine.runExecute statement).run session with
          | mk outcome after =>
              rw [ran] at member
              cases outcome with
              | error error => cases member
              | ok output =>
                  dsimp only at member
                  split at member
                  · exact setup.eventsOfInvalidation_onlyReads _ after event member
                  · cases member
  | warmup builders =>
      exact Setup.eventsOfWarmup_onlyReads selective builders session event member
  | invalidate target => exact setup.eventsOfInvalidation_onlyReads target session event member
  | put key value ttl =>
      rw [List.mem_singleton.mp member]
      trivial
  | erase key =>
      rw [List.mem_singleton.mp member]
      trivial
  | clear =>
      rw [List.mem_singleton.mp member]
      trivial
  | lookUp accepts key => cases member
  | holds key => cases member
  | evictExpired => cases member
  | resetStats => cases member
  | outside change => cases member

theorem eventsOf_onlyReads (selective : setup.caching.selectOnly = true)
    {steps : List (Step Outside)} :
    ∀ session, ∀ event ∈ eventsOf setup session steps, event.OnlyReads := by
  induction steps with
  | nil =>
      intro session event none
      cases none
  | cons step rest ih =>
      intro session event member
      rcases List.mem_append.mp member with own | further
      · exact events_onlyReads selective session step event own
      · exact ih (step.apply setup session) event further

end Step

/-- What is found in the course of a session was stored by the last event of its key, and its time
is not over. -/
theorem Step.found_stored {setup : Setup Outside} {steps : List (Step Outside)}
    (outside : Outside) (capacity : Nat) (defaultTtl : Option Nat) {key : String} {value : Json} :
    let start := Setup.opening outside capacity defaultTtl
    let reached := Step.run setup start steps
    (reached.world.store.get (setup.clock reached.world.outside) key).1 = some value →
      ∃ content time lifetime,
        Event.last? key (Step.eventsOf setup start steps) =
            some (.stored key content time lifetime) ∧
          content.json = value ∧ setup.clock reached.world.outside < time + lifetime := by
  intro start reached found
  obtain ⟨entry, stored, held, live, _⟩ := MemoryCache.get_found found
  have moves := Step.run_moves setup.allows_all start (fun step (_ : step ∈ steps) =>
    step.allowed_all)
  -- The store was empty at first, so what it holds was left there by an event.
  have left := moves.traces (key, entry) stored
  unfold Event.Leaves at left
  cases last : Event.last? key (Step.eventsOf setup start steps) with
  | none =>
      rw [last] at left
      cases left
  | some event =>
      rw [last] at left
      cases event with
      | stored own content time lifetime =>
          cases left
          rw [Event.key_of_last? last]
          exact ⟨content, time, lifetime, rfl, held, of_decide_eq_true live⟩
      | dropped own => cases left
      | cleared => cases left

/-! ### Reading a write -/

namespace Setup

variable {setup : Setup Outside} {session : Session (Site Outside)} {builder : Builder}
variable {request : Request} {statement : Statement}

theorem asks_of_keyless (made : builder.statementOf request = .ok statement)
    (keyless : setup.engine.keyOf? builder request = none) :
    setup.Asks builder request statement session := by
  constructor
  · rw [Engine.read_unkeyed made keyless, Action.run_bind_pure]
    rfl
  · rw [Engine.read_unkeyed made keyless, Action.run_bind_pure]
    rfl

theorem eventsOfRead_of_write (selective : setup.caching.selectOnly = true)
    (made : builder.statementOf request = .ok statement)
    (writes : isReadStatement statement.sql = false) :
    setup.eventsOfRead builder request session = [] := by
  unfold eventsOfRead
  cases keyed : setup.engine.keyOf? builder request with
  | none => rfl
  | some use =>
      have own := Engine.statement_of_keyOf? keyed
      rw [made] at own
      dsimp only
      cases setup.cache.get QueryOutput.ofJson? use.1 session with
      | mk found missed =>
          cases found with
          | some output => rfl
          | none =>
              rw [← Except.ok.inj own]
              exact eventsOfFetch_of_write selective writes _ missed

theorem entries_of_write (selective : setup.caching.selectOnly = true)
    (made : builder.statementOf request = .ok statement)
    (writes : isReadStatement statement.sql = false) :
    ∀ kept ∈ ((setup.engine.read builder request).run session).2.entries,
      kept ∈ session.entries := by
  intro kept member
  have left := (read_moves session setup.allows_all builder request).traces kept member
  rw [eventsOfRead_of_write selective made writes] at left
  exact left

end Setup

variable {World : Type}

/-- A `get` sends its statement once, gives what the executor answers and stores nothing. -/
structure Setup.Passes (setup : Setup World) (builder : Builder) (statement : Statement)
    (session : Session (Site (Logged World))) : Prop where
  sent : ((setup.recorded.engine.get builder).run session).2.world.outside.sent =
    session.world.outside.sent ++
      [⟨statement, (setup.executor.query statement.sql statement.bindings
        session.world.outside.world).1⟩]
  outcome : ((setup.recorded.engine.get builder).run session).1 =
    ((setup.executor.query statement.sql statement.bindings
        session.world.outside.world).1.mapError
      (fun error => error.attachStatement statement.sql statement.bindings)).map
        (fun output => (setup.recorded.engine.decrypt builder output).rows)
  entries : ∀ kept ∈ ((setup.recorded.engine.get builder).run session).2.entries,
    kept ∈ session.entries

namespace Setup

variable {setup : Setup World} {session : Session (Site (Logged World))} {builder : Builder}
variable {statement : Statement}

theorem get_run (setup : Setup World) (session : Session (Site (Logged World)))
    (builder : Builder) :
    (setup.recorded.engine.get builder).run session =
      (((setup.recorded.engine.read builder .whole).run session).1.map QueryOutput.rows,
        ((setup.recorded.engine.read builder .whole).run session).2) := by
  rw [Engine.get_eq_read, Action.run_map]

theorem passes_of_asks (selective : setup.caching.selectOnly = true)
    (made : builder.statement = .ok statement)
    (writes : isReadStatement statement.sql = false)
    (asks : setup.recorded.Asks builder .whole statement session) :
    setup.Passes builder statement session := by
  have replied : (setup.recorded.executor.query statement.sql statement.bindings
      session.world.outside).1 =
    (setup.executor.query statement.sql statement.bindings session.world.outside.world).1 := rfl
  constructor
  · rw [get_run]
    exact congrArg Logged.sent asks.outside
  · rw [get_run]
    dsimp only
    rw [asks.outcome, replied]
    cases (setup.executor.query statement.sql statement.bindings
        session.world.outside.world).1 with
    | error error => rfl
    | ok output => rfl
  · rw [get_run]
    exact entries_of_write selective made writes

end Setup

/-- Where only the results of reading statements are stored, the `get` of a write sends it once,
gives what the executor answers and stores nothing, unless something lives under its key; and that
was last stored there as the result of a reading statement or by hand. -/
theorem write_is_sent_unless_its_key_is_taken (setup : Setup World) (world : World)
    (capacity : Nat) (defaultTtl : Option Nat) (steps : List (Step (Logged World)))
    (selective : setup.caching.selectOnly = true) (builder : Builder) (statement : Statement)
    (made : builder.statement = .ok statement)
    (writes : isReadStatement statement.sql = false) :
    let start := Setup.opening ⟨world, []⟩ capacity defaultTtl
    let reached := Step.run setup.recorded start steps
    setup.Passes builder statement reached ∨
    ∃ key content time lifetime output,
      setup.recorded.engine.keyOf? builder .whole = some (key, statement) ∧
      Event.last? key (Step.eventsOf setup.recorded start steps) =
        some (.stored key content time lifetime) ∧
      (Event.stored key content time lifetime).OnlyReads ∧
      setup.clock reached.world.outside.world < time + lifetime ∧
      QueryOutput.ofJson? content.json = some output ∧
      (setup.recorded.engine.get builder).run reached =
        (.ok (setup.recorded.engine.decrypt builder output).rows,
          { reached with cache :=
            { reached.cache with stats := reached.cache.stats.countHit } }) := by
  intro start reached
  cases keyed : setup.recorded.engine.keyOf? builder .whole with
  | none =>
      exact .inl (Setup.passes_of_asks selective made writes (Setup.asks_of_keyless made keyed))
  | some use =>
      obtain ⟨key, own⟩ := use
      have same : statement = own :=
        Except.ok.inj (made.symm.trans (Engine.statement_of_keyOf? keyed))
      subst same
      rcases QueryOutput.decoded_or_missing (fun value =>
          (reached.world.store.get (setup.clock reached.world.outside.world) key).1 =
            some value) with
        ⟨value, output, held, decoded⟩ | missing
      · -- A hit does not ask who stored the value; that it came from a read is known of the run.
        obtain ⟨content, time, lifetime, last, given, early⟩ :=
          Step.found_stored (⟨world, []⟩ : Logged World) capacity defaultTtl held
        have kept : setup.recorded.caching.selectOnly = true := selective
        have reads := Step.eventsOf_onlyReads kept start _ (Event.mem_of_last? last).1
        refine .inr ⟨key, content, time, lifetime, output, rfl, last, reads, early, ?_, ?_⟩
        · rw [given]
          exact decoded
        · rw [Setup.get_run, Setup.read_of_found keyed held decoded]
          rfl
      · have asks := (Setup.read_of_missing keyed missing).1
        exact .inl (Setup.passes_of_asks selective made writes asks)

def renamingCalls : List Call :=
  [.compare .and "id" "=" (.int 7), .update [("name", .string "Grace")]]

/-- A reader that has turned into a write under a key of its own is sent. -/
theorem renaming_is_sent :
    ∃ reader writer statement,
      countingSetup.engine.query.applyAll (rankingCalls []) = .ok reader ∧
      reader.applyAll (.cache { key := some "renaming" } :: renamingCalls) = .ok writer ∧
      writer.statement = .ok statement ∧
      let reached := Step.run countingSetup.recorded (Setup.opening ⟨0, []⟩ 2 none)
        [.read reader .whole]
      ((countingSetup.recorded.engine.get writer).run reached).2.world.outside.sent.length =
        reached.world.outside.sent.length + 1 := by
  have facts : (do
      let reader ← countingSetup.engine.query.applyAll (rankingCalls [])
      let writer ← reader.applyAll (.cache { key := some "renaming" } :: renamingCalls)
      let statement ← writer.statement
      pure (isReadStatement statement.sql,
        (countingSetup.recorded.engine.keyOf? writer .whole).map Prod.fst,
        (Event.last? "renaming" (Step.eventsOf countingSetup.recorded
          (Setup.opening ⟨0, []⟩ 2 none) [.read reader .whole])).isSome)).toOption =
      some (false, some "renaming", false) := by decide +kernel
  obtain ⟨reader, first, further⟩ := exists_of_bind_ok (ok_of_toOption facts)
  obtain ⟨writer, second, further⟩ := exists_of_bind_ok further
  obtain ⟨statement, made, last⟩ := exists_of_bind_ok further
  obtain ⟨writes, further⟩ := Prod.mk.inj (Except.ok.inj last)
  obtain ⟨keyed, untouched⟩ := Prod.mk.inj further
  refine ⟨reader, writer, statement, first, second, made, ?_⟩
  have law := write_is_sent_unless_its_key_is_taken countingSetup 0 2 none
    [.read reader .whole] rfl writer statement made writes
  rcases law with passes | ⟨key, content, time, lifetime, output, own, stored, _⟩
  · dsimp only
    rw [passes.sent]
    exact List.length_append
  · rw [own] at keyed
    have same : key = "renaming" := Option.some.inj keyed
    rw [same] at stored
    rw [stored] at untouched
    cases untouched

/-- One that keeps the key of the reader is answered with what the reader was given. -/
theorem renaming_is_answered_with_ranking :
    ∃ reader writer statement,
      countingSetup.engine.query.applyAll (rankingCalls []) = .ok reader ∧
      reader.applyAll renamingCalls = .ok writer ∧
      countingSetup.caching.selectOnly = true ∧ writer.statement = .ok statement ∧
      isReadStatement statement.sql = false ∧
      let reached := Step.run countingSetup.recorded (Setup.opening ⟨0, []⟩ 2 none)
        [.read reader .whole]
      ((countingSetup.recorded.engine.get writer).run reached).2.world.outside.sent.length =
        reached.world.outside.sent.length := by
  have facts : (do
      let reader ← countingSetup.engine.query.applyAll (rankingCalls [])
      let writer ← reader.applyAll renamingCalls
      let statement ← writer.statement
      let reached := Step.run countingSetup.recorded (Setup.opening ⟨0, []⟩ 2 none)
        [.read reader .whole]
      pure (isReadStatement statement.sql, reached.world.outside.sent.length,
        ((countingSetup.recorded.engine.get writer).run reached).2.world.outside.sent.length
        )).toOption =
      some (false, 1, 1) := by decide +kernel
  obtain ⟨reader, first, further⟩ := exists_of_bind_ok (ok_of_toOption facts)
  obtain ⟨writer, second, further⟩ := exists_of_bind_ok further
  obtain ⟨statement, made, last⟩ := exists_of_bind_ok further
  obtain ⟨writes, further⟩ := Prod.mk.inj (Except.ok.inj last)
  obtain ⟨before, after⟩ := Prod.mk.inj further
  exact ⟨reader, writer, statement, first, second, rfl, made, writes, after.trans before.symm⟩

end BoundQuery
