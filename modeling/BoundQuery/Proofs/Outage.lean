import BoundQuery.Proofs.ReadThrough
import BoundQuery.Proofs.Sending
import BoundQuery.Proofs.Tagging

/-!
Caches that fail. Each operation of an adapter may end in any value or any error, and may do so
differently at every call. A read then still gives what the adapter has just come up with or what
the executor answers, which is asked once; and an invalidation still takes its names out of the
index.
-/

set_option autoImplicit false

namespace BoundQuery

variable {World : Type}

/-- Nothing stands under the name, not even an empty list of keys. -/
def KeyIndex.Lacks (index : KeyIndex) (name : String) : Prop :=
  ∀ entry ∈ index.entries, entry.1 ≠ Text.lower name

namespace KeyIndex.Lacks

variable {index : KeyIndex} {name : String}

theorem forgetKey (lacks : index.Lacks name) (key : String) : (index.forgetKey key).Lacks name := by
  intro entry member
  obtain ⟨shrunk, _⟩ := List.mem_filter.mp member
  obtain ⟨kept, held, same⟩ := List.mem_map.mp shrunk
  rw [← same]
  exact lacks kept held

theorem take (lacks : index.Lacks name) (other : String) : (index.take other).2.Lacks name :=
  fun entry member => lacks entry (List.mem_filter.mp member).1

theorem of_take (index : KeyIndex) (name : String) : (index.take name).2.Lacks name := by
  intro entry member
  simpa using (List.mem_filter.mp member).2

theorem takeAll (names : List String) :
    ∀ {index : KeyIndex}, index.Lacks name → (index.takeAll names).2.Lacks name := by
  induction names with
  | nil => exact fun lacks => lacks
  | cons first rest ih => exact fun lacks => ih (lacks.take first)

theorem of_takeAll {names : List String} :
    ∀ (index : KeyIndex), ∀ name ∈ names, (index.takeAll names).2.Lacks name := by
  induction names with
  | nil =>
      intro _ name none
      cases none
  | cons first rest ih =>
      intro index name listed
      rcases List.mem_cons.mp listed with here | there
      · rw [here]
        exact takeAll rest (of_take index first)
      · exact ih _ name there

end KeyIndex.Lacks

/-- None of the names is left in its index. -/
structure CacheState.Lacks (state : CacheState) (target : Invalidation) : Prop where
  tables : ∀ table ∈ target.tables, state.tables.Lacks table
  tags : ∀ tag ∈ target.tags, state.tags.Lacks tag

theorem CacheState.Lacks.forget {state : CacheState} {target : Invalidation}
    (lacks : state.Lacks target) (key : String) : (state.forget key).Lacks target :=
  ⟨fun table named => (lacks.tables table named).forgetKey key,
    fun tag named => (lacks.tags tag named).forgetKey key⟩

theorem CacheState.takeNames_lacks (state : CacheState) (target : Invalidation) :
    (state.takeNames target).2.Lacks target :=
  ⟨KeyIndex.Lacks.of_takeAll state.tables, KeyIndex.Lacks.of_takeAll state.tags⟩

namespace ResultCache

variable (cache : ResultCache World)

theorem sweep_cons (name : String) (rest : List String) (session : Session World) :
    (cache.sweep (name :: rest) session).2 =
      (cache.sweep rest
        ⟨(cache.adapter.keys
            (some (KeyPattern.mentioning cache.config.keyStart (Text.lower name)))
            session.world).2, session.cache⟩).2 := by
  rw [sweep]
  simp only [bind, StateT.bind, Session.inWorld]
  cases (cache.adapter.keys (some (KeyPattern.mentioning cache.config.keyStart (Text.lower name)))
    session.world).1 with
  | error error => rfl
  | ok keys => rfl

theorem sweep_cache (names : List String) :
    ∀ session : Session World, (cache.sweep names session).2.cache = session.cache := by
  induction names with
  | nil => exact fun _ => rfl
  | cons name rest ih =>
      intro session
      rw [sweep_cons]
      exact ih _

theorem dropKeys_after (key : String) (rest : List String) (session : Session World) :
    (cache.dropKeys (key :: rest) session).2 =
      (cache.dropKeys rest
        ⟨(cache.adapter.delete key session.world).2, session.cache.forget key⟩).2 := by
  rw [dropKeys]
  simp only [bind, StateT.bind, Session.inWorld, Session.forget, Session.onCache, modify,
    modifyGet, MonadStateOf.modifyGet, StateT.modifyGet, pure]
  cases (cache.adapter.delete key session.world).1 with
  | error error => rfl
  | ok confirmed =>
      cases confirmed with
      | false => rfl
      | true => rfl

theorem dropKeys_lacks {target : Invalidation} (keys : List String) :
    ∀ session : Session World, session.cache.Lacks target →
      (cache.dropKeys keys session).2.cache.Lacks target := by
  induction keys with
  | nil => exact fun _ lacks => lacks
  | cons key rest ih =>
      intro session lacks
      rw [dropKeys_after]
      exact ih _ (lacks.forget key)

theorem invalidate_lacks (target : Invalidation) (session : Session World) :
    (cache.invalidate target session).2.cache.Lacks target := by
  let counted : CacheState :=
    { session.cache with stats := session.cache.stats.countInvalidation }
  let taken : Session World := ⟨session.world, (counted.takeNames target).2⟩
  have without : taken.cache.Lacks target := counted.takeNames_lacks target
  by_cases scanning : (cache.config.patternInvalidation && cache.adapter.scansPatterns) = true
  · have swept : (cache.sweep target.names taken).2.cache.Lacks target := by
      rw [sweep_cache]
      exact without
    have dropped := dropKeys_lacks cache
      (insertKeys [] ((counted.takeNames target).1 ++ (cache.sweep target.names taken).1))
      (cache.sweep target.names taken).2 swept
    unfold invalidate
    simp only [scanning, if_true]
    exact ⟨dropped.tables, dropped.tags⟩
  · have dropped := dropKeys_lacks cache
      (insertKeys [] ((counted.takeNames target).1 ++ [])) taken without
    unfold invalidate
    simp only [scanning]
    exact ⟨dropped.tables, dropped.tags⟩

theorem get_result {Item : Type} (decode? : Json → Option Item) (key : String)
    (session : Session World) :
    (cache.get decode? key session).1 =
      (cache.adapter.get key session.world).1.toOption.join.bind decode? := by
  unfold get lookup
  simp only [bind, StateT.bind, Session.inWorld]
  cases (cache.adapter.get key session.world).1 with
  | error error => rfl
  | ok found =>
      cases found with
      | none => rfl
      | some value =>
          change _ = decode? value
          cases decoded : decode? value with
          | none =>
              simp only [pure, pure_run, decoded]
              rfl
          | some item =>
              simp only [pure, pure_run, decoded]
              rfl

theorem set_result (key : String) (value : Json) (ttl : Option Nat) (session : Session World) :
    (cache.set key value ttl session).1 =
      (cache.adapter.set key value (some (ttl.getD cache.config.defaultTtl))
        session.world).1.isOk := by
  unfold set
  simp only [bind, StateT.bind, Session.inWorld]
  cases (cache.adapter.set key value (some (ttl.getD cache.config.defaultTtl))
    session.world).1 with
  | error error => rfl
  | ok _ => rfl

theorem delete_result (key : String) (session : Session World) :
    (cache.delete key session).1 =
      (cache.adapter.delete key session.world).1.toOption.getD false := by
  unfold delete
  simp only [bind, StateT.bind, Session.inWorld, Session.forget, Session.onCache, modify,
    modifyGet, MonadStateOf.modifyGet, StateT.modifyGet, pure]
  cases (cache.adapter.delete key session.world).1 with
  | error error => rfl
  | ok confirmed =>
      cases confirmed with
      | false => rfl
      | true => rfl

theorem holds_result (key : String) (session : Session World) :
    (cache.holds key session).1 =
      (cache.adapter.holds key session.world).1.toOption.getD false := by
  unfold holds
  simp only [bind, StateT.bind, Session.inWorld]
  cases (cache.adapter.holds key session.world).1 with
  | error error => rfl
  | ok found => rfl

end ResultCache

/-! ### An engine over any adapter -/

def Logged.inside {Item : Type} (effect : StateM World Item) : StateM (Logged World) Item :=
  fun logged =>
    let result := effect logged.world
    (result.1, { logged with world := result.2 })

/-- The adapter beside the record of exchanges, which it neither reads nor changes. -/
def CacheAdapter.besideLog (adapter : CacheAdapter World) : CacheAdapter (Logged World) :=
  { get := fun key => Logged.inside (adapter.get key)
    set := fun key value ttl => Logged.inside (adapter.set key value ttl)
    delete := fun key => Logged.inside (adapter.delete key)
    keys := fun pattern => Logged.inside (adapter.keys pattern)
    clear := Logged.inside adapter.clear
    holds := fun key => Logged.inside (adapter.holds key)
    scansPatterns := adapter.scansPatterns
    name := adapter.name }

/-- The adapter and the executor are at work in one world. -/
structure Deployment (World : Type) where
  adapter : CacheAdapter World
  executor : Executor World
  profile : Profile
  config : EngineConfig := {}
  caching : CacheConfig := {}
  decryptor : Option Decryptor := none

namespace Deployment

variable (deployment : Deployment World)

def cache : ResultCache (Logged World) :=
  { adapter := deployment.adapter.besideLog
    config := deployment.caching }

def engine : Engine (Logged World) :=
  { executor := deployment.executor.logged
    profile := deployment.profile
    config := deployment.config
    cache := some deployment.cache
    decryptor := deployment.decryptor }

variable (session : Session (Logged World))

/-- What the adapter says when it is asked for the key now. -/
def looked (key : String) : Except CacheError (Option Json) × World :=
  deployment.adapter.get key session.world.world

/-- What the executor says when it is asked after that. -/
def answer (key : String) (statement : Statement) : Except QueryError QueryOutput × World :=
  deployment.executor.query statement.sql statement.bindings (deployment.looked session key).2

def reading (builder : Builder) (request : Request) :
    Except QueryError QueryOutput × Session (Logged World) :=
  (deployment.engine.read builder request).run session

/-- The read gives an output from the cache and sends nothing. -/
structure Gives (builder : Builder) (request : Request) (output : QueryOutput) : Prop where
  reply : (deployment.reading session builder request).1 =
    .ok (deployment.engine.decrypt builder output)
  sent : (deployment.reading session builder request).2.sent = session.sent
  state : (deployment.reading session builder request).2.cache =
    { session.cache with stats := session.cache.stats.countHit }

/-- The read sends its statement once and gives the answer. An error names the statement unless it
named one before; nothing is done after it, and at most the key is forgotten. -/
structure Asks (builder : Builder) (request : Request) (key : String) (statement : Statement) :
    Prop where
  sent : (deployment.reading session builder request).2.sent =
    session.sent ++ [⟨statement, (deployment.answer session key statement).1⟩]
  hits : (deployment.reading session builder request).2.cache.stats.hits =
    session.cache.stats.hits
  misses : (deployment.reading session builder request).2.cache.stats.misses =
    session.cache.stats.misses + 1
  reply : ∀ output, (deployment.answer session key statement).1 = .ok output →
    (deployment.reading session builder request).1 =
      .ok (deployment.engine.decrypt builder output)
  failure : ∀ error, (deployment.answer session key statement).1 = .error error →
    (deployment.reading session builder request).1 =
        .error { error with
          context := { error.context with
            sql := some (error.context.sql.getD statement.sql)
            bindings := some (error.context.bindings.getD statement.bindings) } } ∧
      (deployment.reading session builder request).2.world.world =
        (deployment.answer session key statement).2 ∧
      ∃ state, (state = session.cache ∨ state = session.cache.forget key) ∧
        (deployment.reading session builder request).2.cache =
          { state with stats := session.cache.stats.countMiss }

variable {deployment session} {builder : Builder} {request : Request} {key : String}
variable {statement : Statement}

theorem storeOutput_sent (statement : Statement) (directive : CacheDirective)
    (output : QueryOutput) (session : Session (Logged World)) :
    (deployment.cache.storeOutput statement directive output session).2.sent = session.sent := by
  unfold ResultCache.storeOutput
  by_cases refused : (!deployment.cache.isCacheable statement output) = true
  · rw [if_pos refused]
    rfl
  · rw [if_neg refused]
    unfold ResultCache.set
    simp only [bind, StateT.bind, Session.inWorld]
    cases (deployment.cache.adapter.set (deployment.cache.keyFor statement directive)
      output.toJson (some (directive.ttl.getD deployment.cache.config.defaultTtl))
      session.world).1 with
    | error error => rfl
    | ok _ => rfl

theorem gives_of_found (keyed : deployment.engine.keyOf? builder request = some (key, statement))
    {value : Json} {output : QueryOutput}
    (found : (deployment.looked session key).1 = .ok (some value))
    (decoded : QueryOutput.ofJson? value = some output) :
    deployment.Gives session builder request output := by
  have asked : deployment.cache.adapter.get key session.world =
      (.ok (some value), ⟨(deployment.looked session key).2, session.sent⟩) :=
    Prod.ext found rfl
  have run : deployment.reading session builder request = _ := Engine.read_through rfl keyed session
  rw [deployment.cache.get_of_found session key asked decoded] at run
  exact ⟨congrArg Prod.fst run, congrArg (fun result => result.2.sent) run,
    congrArg (fun result => result.2.cache) run⟩

def asked (session : Session (Logged World)) (key : String) (statement : Statement)
    (state : CacheState) : Session (Logged World) :=
  ⟨⟨(deployment.answer session key statement).2,
      session.sent ++ [⟨statement, (deployment.answer session key statement).1⟩]⟩,
    { state with stats := session.cache.stats.countMiss }⟩

theorem reading_of_missing
    (keyed : deployment.engine.keyOf? builder request = some (key, statement))
    (missing : ∀ value, (deployment.looked session key).1 = .ok (some value) →
      QueryOutput.ofJson? value = none) :
    ∃ state, (state = session.cache ∨ state = session.cache.forget key) ∧
      deployment.reading session builder request =
        match (deployment.answer session key statement).1 with
        | .error error =>
            (.error (error.attachStatement statement.sql statement.bindings),
              deployment.asked session key statement state)
        | .ok output =>
            (.ok (deployment.engine.decrypt builder output),
              (deployment.cache.storeOutput statement
                (deployment.engine.directiveFor builder request statement) output
                (deployment.asked session key statement state)).2) := by
  have looked : deployment.cache.adapter.get key session.world =
      ((deployment.looked session key).1, ⟨(deployment.looked session key).2, session.sent⟩) := rfl
  obtain ⟨state, forgotten, missed⟩ := deployment.cache.get_of_missing session key looked missing
  refine ⟨state, forgotten, ?_⟩
  have run : deployment.reading session builder request = _ := Engine.read_through rfl keyed session
  rw [missed] at run
  have sent : (deployment.engine.runQuery statement).run
      ⟨⟨(deployment.looked session key).2, session.sent⟩,
        { state with stats := session.cache.stats.countMiss }⟩ =
      ((deployment.answer session key statement).1.mapError
          (fun error => error.attachStatement statement.sql statement.bindings),
        deployment.asked session key statement state) := rfl
  dsimp only at run
  rw [run, sent]
  cases (deployment.answer session key statement).1 with
  | error error => rfl
  | ok output => rfl

theorem asks_of_missing
    (keyed : deployment.engine.keyOf? builder request = some (key, statement))
    (missing : ∀ value, (deployment.looked session key).1 = .ok (some value) →
      QueryOutput.ofJson? value = none) :
    deployment.Asks session builder request key statement := by
  obtain ⟨state, forgotten, run⟩ := reading_of_missing keyed missing
  cases answered : (deployment.answer session key statement).1 with
  | error error =>
      rw [answered] at run
      constructor
      · rw [run]
        rfl
      · rw [run]
        rfl
      · rw [run]
        rfl
      · intro output impossible
        rw [answered] at impossible
        cases impossible
      · intro other same
        rw [answered] at same
        cases same
        rw [run]
        exact ⟨rfl, rfl, state, forgotten, rfl⟩
  | ok output =>
      rw [answered] at run
      have sent : (deployment.cache.storeOutput statement
          (deployment.engine.directiveFor builder request statement) output
          (deployment.asked session key statement state)).2.sent =
            (deployment.asked session key statement state).sent :=
        storeOutput_sent statement _ output _
      obtain ⟨hits, misses⟩ := deployment.cache.storeOutput_counts
        (deployment.asked session key statement state) statement
        (deployment.engine.directiveFor builder request statement) output
      constructor
      · rw [run]
        exact sent
      · rw [run]
        exact hits
      · rw [run]
        exact misses
      · intro other same
        rw [answered] at same
        cases same
        rw [run]
      · intro error impossible
        rw [answered] at impossible
        cases impossible

theorem warmup_of_failure {error : QueryError} (rest : List Builder)
    (made : builder.statement = .ok statement)
    (failed : (session.exchange deployment.executor statement).answer = .error error) :
    (deployment.engine.warmup deployment.cache (builder :: rest)).run session =
      (.error (error.attachStatement statement.sql statement.bindings),
        session.afterExchange deployment.executor statement) := by
  have sent : (deployment.engine.runQuery statement).run session =
      ((session.exchange deployment.executor statement).answer.mapError
          (fun error => error.attachStatement statement.sql statement.bindings),
        session.afterExchange deployment.executor statement) := rfl
  rw [failed] at sent
  rw [Engine.warmup, made]
  exact Action.run_bind_error sent _

end Deployment

/-- Whatever an adapter does, a read through the cache gives what the adapter has just come up with
or sends its statement once and gives the answer; an executor that fails leaves nothing behind; an
error of the adapter reads as nothing found, stored or deleted; and no name that was invalidated is
left in the index. -/
theorem outage_never_fails_a_query (deployment : Deployment World)
    (session : Session (Logged World)) :
    (∀ builder request key statement,
      deployment.engine.keyOf? builder request = some (key, statement) →
        (∃ value output, (deployment.looked session key).1 = .ok (some value) ∧
          QueryOutput.ofJson? value = some output ∧
          deployment.Gives session builder request output) ∨
        ((∀ value, (deployment.looked session key).1 = .ok (some value) →
            QueryOutput.ofJson? value = none) ∧
          deployment.Asks session builder request key statement)) ∧
    (∀ builder rest statement error, builder.statement = .ok statement →
      (session.exchange deployment.executor statement).answer = .error error →
        (deployment.engine.warmup deployment.cache (builder :: rest)).run session =
          (.error (error.attachStatement statement.sql statement.bindings),
            session.afterExchange deployment.executor statement)) ∧
    (∀ (Item : Type) (decode? : Json → Option Item) key,
      (deployment.cache.get decode? key session).1 =
        (deployment.adapter.get key session.world.world).1.toOption.join.bind decode?) ∧
    (∀ key value ttl, (deployment.cache.set key value ttl session).1 =
      (deployment.adapter.set key value (some (ttl.getD deployment.caching.defaultTtl))
        session.world.world).1.isOk) ∧
    (∀ key, (deployment.cache.delete key session).1 =
      (deployment.adapter.delete key session.world.world).1.toOption.getD false) ∧
    (∀ key, (deployment.cache.holds key session).1 =
      (deployment.adapter.holds key session.world.world).1.toOption.getD false) ∧
    ∀ target, (deployment.cache.invalidate target session).2.cache.Lacks target := by
  refine ⟨?_, ?_, ?_, ?_, ?_, ?_, ?_⟩
  · intro builder request key statement keyed
    rcases QueryOutput.decoded_or_missing
        (fun value => (deployment.looked session key).1 = .ok (some value)) with
      ⟨value, output, held, decoded⟩ | missing
    · exact .inl ⟨value, output, held, decoded, Deployment.gives_of_found keyed held decoded⟩
    · exact .inr ⟨missing, Deployment.asks_of_missing keyed missing⟩
  · intro builder rest statement error made failed
    exact Deployment.warmup_of_failure rest made failed
  · intro Item decode? key
    exact deployment.cache.get_result decode? key session
  · intro key value ttl
    exact deployment.cache.set_result key value ttl session
  · intro key
    exact deployment.cache.delete_result key session
  · intro key
    exact deployment.cache.holds_result key session
  · intro target
    exact deployment.cache.invalidate_lacks target session

def brokenDeployment : Deployment Nat :=
  { adapter :=
      { get := fun _ => pure (.error .timedOut)
        set := fun _ _ _ => pure (.error .timedOut)
        delete := fun _ => pure (.error .timedOut)
        keys := fun _ => pure (.error .timedOut)
        clear := pure (.error .timedOut)
        holds := fun _ => pure (.error .timedOut)
        scansPatterns := true }
    executor := countingSetup.executor
    profile := Dialect.sqlite.profile }

theorem broken_cache_still_answers :
    ∃ builder statement, brokenDeployment.engine.query.applyAll (rankingCalls []) = .ok builder ∧
      brokenDeployment.Asks ⟨⟨0, []⟩, {}⟩ builder .whole "ranking" statement ∧
      (brokenDeployment.cache.invalidate { tables := ["users"] } ⟨⟨0, []⟩, {}⟩).2.cache.Lacks
        { tables := ["users"] } := by
  have facts : (do
      let builder ← brokenDeployment.engine.query.applyAll (rankingCalls [])
      pure ((brokenDeployment.engine.keyOf? builder .whole).map Prod.fst)).toOption =
      some (some "ranking") := by decide +kernel
  obtain ⟨builder, reached, last⟩ := exists_of_bind_ok (ok_of_toOption facts)
  obtain ⟨⟨key, statement⟩, keyed, own⟩ := Option.map_eq_some_iff.mp (Except.ok.inj last)
  change key = "ranking" at own
  subst own
  obtain ⟨reads, _, _, _, _, _, invalidates⟩ :=
    outage_never_fails_a_query brokenDeployment ⟨⟨0, []⟩, {}⟩
  refine ⟨builder, statement, reached, ?_, invalidates _⟩
  rcases reads builder .whole "ranking" statement keyed with ⟨value, _, found, _⟩ | ⟨_, asks⟩
  · cases found
  · exact asks

end BoundQuery
