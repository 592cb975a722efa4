import BoundQuery.Proofs.Transparency

/-!
A read through a cache, whatever the results are kept in: the adapter is asked, and unless it comes
up with a result the statement is run, and its result handed to the adapter.
-/

set_option autoImplicit false

namespace BoundQuery

variable {World : Type}

theorem QueryOutput.decoded_or_missing (held : Json → Prop) :
    (∃ value output, held value ∧ QueryOutput.ofJson? value = some output) ∨
      ∀ value, held value → QueryOutput.ofJson? value = none := by
  by_cases found : ∃ value output, held value ∧ QueryOutput.ofJson? value = some output
  · exact .inl found
  · right
    intro value stands
    cases decoded : QueryOutput.ofJson? value with
    | none => rfl
    | some output => exact absurd ⟨value, output, stands, decoded⟩ found

theorem pure_run {State Item : Type} (item : Item) (state : State) :
    (StateT.pure item : StateM State Item) state = (item, state) :=
  rfl

namespace ResultCache

variable (cache : ResultCache World) (session : Session World) (key : String)

theorem get_of_found {Item : Type} {decode? : Json → Option Item} {value : Json} {item : Item}
    {world : World} (looked : cache.adapter.get key session.world = (.ok (some value), world))
    (decoded : decode? value = some item) :
    cache.get decode? key session =
      (some item,
        ⟨world, { session.cache with stats := session.cache.stats.countHit }⟩) := by
  unfold get lookup
  simp only [bind, StateT.bind, Session.inWorld, looked, pure, pure_run, decoded]
  rfl

theorem get_of_missing {Item : Type} {decode? : Json → Option Item}
    {looked : Except CacheError (Option Json)} {world : World}
    (asked : cache.adapter.get key session.world = (looked, world))
    (missing : ∀ value, looked = .ok (some value) → decode? value = none) :
    ∃ state, (state = session.cache ∨ state = session.cache.forget key) ∧
      cache.get decode? key session =
        (none, ⟨world, { state with stats := session.cache.stats.countMiss }⟩) := by
  unfold get lookup
  simp only [bind, StateT.bind, Session.inWorld, asked]
  cases looked with
  | error error => exact ⟨_, .inr rfl, rfl⟩
  | ok found =>
      cases found with
      | none => exact ⟨_, .inr rfl, rfl⟩
      | some value =>
          refine ⟨session.cache, .inl rfl, ?_⟩
          simp only [pure, pure_run, missing value rfl]
          rfl

theorem get_world {Item : Type} (decode? : Json → Option Item) :
    (cache.get decode? key session).2.world = (cache.adapter.get key session.world).2 := by
  unfold get lookup
  simp only [bind, StateT.bind, Session.inWorld]
  cases (cache.adapter.get key session.world).1 with
  | error error => rfl
  | ok found =>
      cases found with
      | none => rfl
      | some value =>
          simp only [pure, pure_run]
          cases decode? value with
          | none => rfl
          | some item => rfl

theorem storeOutput_state (statement : Statement) (directive : CacheDirective)
    (output : QueryOutput) :
    let stored := cache.storeOutput statement directive output session
    stored.2.cache =
      if stored.1 then
        indexUnder (referencedTables statement.sql) directive.tags
          (cache.keyFor statement directive)
          { session.cache with stats := session.cache.stats.countSet }
      else session.cache := by
  unfold storeOutput
  by_cases refused : (!cache.isCacheable statement output) = true
  · rw [if_pos refused]
    rfl
  · rw [if_neg refused]
    unfold set
    simp only [bind, StateT.bind, Session.inWorld]
    cases (cache.adapter.set (cache.keyFor statement directive) output.toJson
      (some (directive.ttl.getD cache.config.defaultTtl)) session.world).1 with
    | error error => rfl
    | ok _ => rfl

theorem storeOutput_records (statement : Statement) (directive : CacheDirective)
    (output : QueryOutput) :
    let after := (cache.storeOutput statement directive output session).2
    after.cache = session.cache ∨
      after.cache = indexUnder (referencedTables statement.sql) directive.tags
        (cache.keyFor statement directive)
        { session.cache with stats := session.cache.stats.countSet } := by
  intro after
  have state : after.cache = _ := cache.storeOutput_state session statement directive output
  split at state
  · exact .inr state
  · exact .inl state

theorem storeOutput_recorded {statement : Statement} {directive : CacheDirective}
    {output : QueryOutput} {after : Session World}
    (stored : cache.storeOutput statement directive output session = (true, after)) :
    after.cache = indexUnder (referencedTables statement.sql) directive.tags
      (cache.keyFor statement directive)
      { session.cache with stats := session.cache.stats.countSet } := by
  have state := cache.storeOutput_state session statement directive output
  rw [stored] at state
  exact state

theorem storeOutput_counts (statement : Statement) (directive : CacheDirective)
    (output : QueryOutput) :
    let after := (cache.storeOutput statement directive output session).2
    after.cache.stats.hits = session.cache.stats.hits ∧
      after.cache.stats.misses = session.cache.stats.misses := by
  intro after
  rcases cache.storeOutput_records session statement directive output with left | recorded
  · unfold after
    rw [left]
    exact ⟨rfl, rfl⟩
  · unfold after
    rw [recorded]
    exact ⟨rfl, rfl⟩

end ResultCache

namespace Engine

theorem length_decrypt (engine : Engine World) (builder : Builder) (output : QueryOutput) :
    (engine.decrypt builder output).rows.length = output.rows.length := by
  unfold decrypt
  cases engine.decryptor with
  | none => rfl
  | some decryptor => exact List.length_map _

variable {engine : Engine World} {cache : ResultCache World} {builder : Builder}
variable {request : Request} {key : String} {statement : Statement}

theorem fetchWith_of_keyOf? (kept : engine.cache = some cache)
    (keyed : engine.keyOf? builder request = some (key, statement)) :
    let directive := engine.directiveFor builder request statement
    cache.keyFor statement directive = key ∧
      engine.fetchWith builder statement (request.mayCache engine.config) directive = (do
        let output ← cache.readThrough statement directive (engine.runQuery statement)
        pure (engine.decrypt builder output)) := by
  have made : builder.statementOf request = .ok statement := statement_of_keyOf? keyed
  unfold keyOf? at keyed
  rw [kept, made] at keyed
  dsimp only at keyed
  split at keyed
  · rename_i enabled
    refine ⟨congrArg Prod.fst (Option.some.inj keyed), ?_⟩
    unfold fetchWith
    rw [kept]
    dsimp only
    rw [if_pos enabled]
  · cases keyed

/-- What the adapter holds comes first; what the executor gives is handed to the adapter. -/
theorem read_through (kept : engine.cache = some cache)
    (keyed : engine.keyOf? builder request = some (key, statement)) (session : Session World) :
    (engine.read builder request).run session =
      match cache.get QueryOutput.ofJson? key session with
      | (some output, after) => (.ok (engine.decrypt builder output), after)
      | (none, missed) =>
          match (engine.runQuery statement).run missed with
          | (.error error, after) => (.error error, after)
          | (.ok output, after) =>
              (.ok (engine.decrypt builder output),
                (cache.storeOutput statement (engine.directiveFor builder request statement)
                  output after).2) := by
  obtain ⟨own, through⟩ := fetchWith_of_keyOf? kept keyed
  have run : (engine.read builder request).run session =
      (do let output ← cache.readThrough statement
            (engine.directiveFor builder request statement) (engine.runQuery statement)
          pure (engine.decrypt builder output) : Action World QueryOutput).run session := by
    unfold read
    rw [← through, statement_of_keyOf? keyed]
    rfl
  rw [run, Action.run_bind_pure]
  unfold ResultCache.readThrough
  rw [Action.run_bind_lift, own]
  cases cache.get QueryOutput.ofJson? key session with
  | mk found missed =>
      cases found with
      | some output => rfl
      | none =>
          dsimp only
          cases ran : (engine.runQuery statement).run missed with
          | mk outcome after =>
              cases outcome with
              | error error => rw [Action.run_bind_error ran]; rfl
              | ok output =>
                  rw [Action.run_bind_ok ran, Action.run_bind_lift]
                  rfl

theorem read_records (kept : engine.cache = some cache)
    (keyed : engine.keyOf? builder request = some (key, statement)) {session missed : Session World}
    (looked : cache.get QueryOutput.ofJson? key session = (none, missed)) :
    let after := ((engine.read builder request).run session).2.cache
    after = missed.cache ∨
      after = ResultCache.indexUnder (referencedTables statement.sql)
        (engine.directiveFor builder request statement).tags key
        { missed.cache with stats := missed.cache.stats.countSet } := by
  have own := (fetchWith_of_keyOf? kept keyed).1
  intro after
  unfold after
  rw [read_through kept keyed, looked]
  dsimp only
  cases answered : (engine.runQuery statement).run missed with
  | mk outcome later =>
      have same : later.cache = missed.cache :=
        congrArg (fun result => result.2.cache) answered.symm
      cases outcome with
      | error error => exact .inl same
      | ok output =>
          have records := cache.storeOutput_records later statement
            (engine.directiveFor builder request statement) output
          rw [own, same] at records
          exact records

theorem read_unkeyed (made : builder.statementOf request = .ok statement)
    (unkeyed : engine.keyOf? builder request = none) :
    engine.read builder request =
      (do let output ← engine.runQuery statement
          pure (engine.decrypt builder output)) := by
  have direct : engine.read builder request = engine.fetchWith builder statement
      (request.mayCache engine.config) (engine.directiveFor builder request statement) := by
    unfold read
    rw [made]
    rfl
  rw [direct]
  unfold fetchWith
  cases kept : engine.cache with
  | none => rfl
  | some cache =>
      unfold keyOf? at unkeyed
      rw [kept, made] at unkeyed
      dsimp only at unkeyed ⊢
      split at unkeyed
      · cases unkeyed
      · rename_i disabled
        rw [if_neg disabled]

end Engine

end BoundQuery
