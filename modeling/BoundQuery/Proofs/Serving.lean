import BoundQuery.Proofs.Site

/-!
What each operation on the cache leaves behind, and the few ways in which one statement may be
served. Everything else that a session is made of comes down to these.
-/

set_option autoImplicit false

namespace BoundQuery

variable {Outside : Type} (setup : Setup Outside) (session : Session (Site Outside))

open Session (Keeps Stores)

namespace Setup

theorem lookup_run (key : String) :
    setup.cache.lookup key session =
      ((session.world.store.get (setup.clock session.world.outside) key).1,
        { session with world := { session.world with
          store := (session.world.store.get (setup.clock session.world.outside) key).2 } }) :=
  rfl

theorem get_spec {Item : Type} (decode? : Json → Option Item) (key : String) :
    Keeps session (setup.cache.get decode? key session).2 ∧
      ∀ item, (setup.cache.get decode? key session).1 = some item →
        ∃ entry, (key, entry) ∈ session.entries ∧ decode? entry.value = some item := by
  let looked := (setup.cache.lookup key session).2
  have stays : ∀ kept ∈ looked.entries, kept ∈ session.entries :=
    fun kept member => MemoryCache.mem_of_get member
  unfold ResultCache.get
  simp only [bind, StateT.bind, lookup_run]
  cases found : (session.world.store.get (setup.clock session.world.outside) key).1 with
  | none =>
      have gone : ∀ kept ∈ looked.entries, kept.1 ≠ key :=
        fun kept member => MemoryCache.get_eq_none found member
      exact ⟨Keeps.of_forget stays gone rfl rfl, fun item missing => by cases missing⟩
  | some value =>
      obtain ⟨entry, stored, held⟩ := MemoryCache.get_eq_some found
      cases decoded : decode? value with
      | none =>
          simp only [decoded]
          exact ⟨Keeps.of_subset stays rfl rfl, fun item missing => by cases missing⟩
      | some item =>
          simp only [decoded]
          refine ⟨Keeps.of_subset stays rfl rfl, ?_⟩
          intro other same
          cases same
          exact ⟨entry, stored, by rw [held, decoded]⟩

def dropped (session : Session (Site Outside)) (key : String) : Session (Site Outside) :=
  { world := { session.world with store := session.world.store.remove key }
    cache := session.cache.forget key }

theorem forget_run (key : String) :
    Session.forget key session = ((), { session with cache := session.cache.forget key }) :=
  rfl

theorem removal_run (key : String) :
    Session.inWorld (setup.cache.adapter.delete key) session =
      (.ok (session.world.store.find? key).isSome,
        { session with world := { session.world with store := session.world.store.remove key } }) :=
  rfl

private theorem dropped_keeps (key : String) {after : Session (Site Outside)}
    (world : after.world = (dropped session key).world)
    (tables : after.cache.tables = (dropped session key).cache.tables) : Keeps session after := by
  have stays : ∀ kept ∈ after.entries, kept ∈ session.entries ∧ kept.1 ≠ key := by
    intro kept member
    unfold Session.entries at member
    rw [world] at member
    exact MemoryCache.mem_remove.mp member
  exact Keeps.of_forget (fun kept member => (stays kept member).1)
    (fun kept member => (stays kept member).2) tables
    (by unfold Session.answers; rw [world]; rfl)

theorem delete_keeps (key : String) : Keeps session (setup.cache.delete key session).2 := by
  unfold ResultCache.delete
  simp only [bind, StateT.bind, forget_run, removal_run]
  generalize (session.world.store.find? key).isSome = held
  cases held with
  | true => exact dropped_keeps session key rfl rfl
  | false => exact dropped_keeps session key rfl rfl

theorem sweep_eq (names : List String) :
    setup.cache.sweep names = fun session => ((setup.cache.sweep names session).1, session) := by
  funext session
  refine Prod.ext rfl ?_
  induction names with
  | nil => rfl
  | cons name rest ih => exact ih

theorem dropKeys_run_cons (key : String) (rest : List String) :
    setup.cache.dropKeys (key :: rest) session =
      ((if (session.world.store.find? key).isSome then 1 else 0) +
          (setup.cache.dropKeys rest (dropped session key)).1,
        (setup.cache.dropKeys rest (dropped session key)).2) := by
  rw [ResultCache.dropKeys]
  simp only [bind, StateT.bind, forget_run, removal_run]
  generalize (session.world.store.find? key).isSome = held
  cases held with
  | true => rfl
  | false => rfl

theorem dropKeys_cons (key : String) (rest : List String) :
    (setup.cache.dropKeys (key :: rest) session).2 =
      (setup.cache.dropKeys rest (dropped session key)).2 := by
  rw [dropKeys_run_cons]

theorem dropKeys_spec (keys : List String) :
    ∀ session : Session (Site Outside), Keeps session (setup.cache.dropKeys keys session).2 ∧
      ∀ kept ∈ (setup.cache.dropKeys keys session).2.entries, kept.1 ∉ keys := by
  induction keys with
  | nil =>
      intro session
      exact ⟨Keeps.refl session, fun kept _ none => by cases none⟩
  | cons key rest ih =>
      intro session
      obtain ⟨further, gone⟩ := ih (dropped session key)
      rw [dropKeys_cons]
      refine ⟨(dropped_keeps session key rfl rfl).trans further, ?_⟩
      intro kept member listed
      rcases List.mem_cons.mp listed with here | there
      · exact (MemoryCache.mem_remove.mp (further.entries kept member)).2 here
      · exact gone kept member there

def namesTaken (session : Session (Site Outside)) (target : Invalidation) :
    Session (Site Outside) :=
  { session with
    cache := ({ session.cache with
      stats := session.cache.stats.countInvalidation }.takeNames target).2 }

/-- An invalidation drops the keys that stood under its names, and any that a sweep finds. -/
theorem invalidate_run (target : Invalidation) :
    ∃ swept : List String,
      let keys := insertKeys [] ((session.cache.takeNames target).1 ++ swept)
      let cleaned := (setup.cache.dropKeys keys (namesTaken session target)).2
      ∃ stats : CacheStats, (setup.cache.invalidate target session).2 =
        { cleaned with cache := { cleaned.cache with stats := stats } } := by
  by_cases sweeping : (setup.cache.config.patternInvalidation &&
    setup.cache.adapter.scansPatterns) = true
  · refine ⟨(setup.cache.sweep target.names (namesTaken session target)).1, ?_⟩
    unfold ResultCache.invalidate
    simp only [sweeping, if_true]
    rw [sweep_eq]
    exact ⟨_, rfl⟩
  · refine ⟨[], ?_⟩
    unfold ResultCache.invalidate
    simp only [sweeping]
    exact ⟨_, rfl⟩

/-- What stays in the store after an invalidation stood under none of the tables. -/
theorem invalidate_spec (target : Invalidation) :
    Keeps session (setup.cache.invalidate target session).2 ∧
      ∀ kept ∈ (setup.cache.invalidate target session).2.entries, ∀ name, ∀ table ∈ target.tables,
        Text.lower name = Text.lower table → kept.1 ∉ session.keysFor name := by
  obtain ⟨swept, stats, run⟩ := invalidate_run setup session target
  obtain ⟨keeps, gone⟩ := dropKeys_spec setup
    (insertKeys [] ((session.cache.takeNames target).1 ++ swept)) (namesTaken session target)
  have handed : ∀ name key, key ∈ session.keysFor name →
      key ∈ insertKeys [] ((session.cache.takeNames target).1 ++ swept) ∨
        (key ∈ (namesTaken session target).keysFor name ∧
          ∀ taken ∈ target.tables, Text.lower name ≠ Text.lower taken) := by
    intro name key indexed
    refine (KeyIndex.mem_takeAll indexed).imp_left (fun given => mem_insertKeys.mpr (.inr ?_))
    exact List.mem_append_left _ (List.mem_append_left _ given)
  rw [run]
  exact Keeps.of_taken handed
    (keeps.trans (Keeps.of_subset (fun _ member => member) rfl rfl)) gone rfl rfl

theorem clear_keeps : Keeps session (setup.cache.clear session).2 := by
  refine ⟨?_, ?_, rfl⟩
  · intro _ member
    cases member
  · intro _ member
    cases member

theorem evictExpired_keeps :
    Keeps session ((Step.evictExpired : Step Outside).apply setup session) :=
  Keeps.of_subset (fun _ member => MemoryCache.mem_of_dropExpired member) rfl rfl

theorem set_spec (key : String) (value : Json) (ttl : Option Nat) :
    Session.Puts key value session (setup.cache.set key value ttl session).2 := by
  refine ⟨?_, rfl, rfl⟩
  intro kept member
  rcases MemoryCache.mem_of_set member with ⟨old, _⟩ | new
  · exact .inl old
  · exact .inr new

theorem storeOutput_spec (statement : Statement) (directive : CacheDirective)
    (output : QueryOutput) :
    Keeps session (setup.cache.storeOutput statement directive output session).2 ∨
      Stores (setup.cache.keyFor statement directive) ⟨statement, output⟩ session
        (setup.cache.storeOutput statement directive output session).2 := by
  unfold ResultCache.storeOutput
  by_cases refused : (!setup.cache.isCacheable statement output) = true
  · rw [if_pos refused]
    exact .inl (Keeps.refl session)
  · rw [if_neg refused]
    right
    let key := setup.cache.keyFor statement directive
    have put := set_spec setup session key output.toJson directive.ttl
    obtain ⟨stays, own⟩ := KeyIndex.mem_keysFor_foldl key (referencedTables statement.sql)
      session.cache.tables
    exact ⟨put.entries, stays, own, rfl⟩

end Setup

/-- The executor has answered, and nothing else has changed that matters here. -/
structure Session.Fetches (answer : Answer) (before after : Session (Site Outside)) : Prop where
  store : after.world.store = before.world.store
  tables : after.cache.tables = before.cache.tables
  answers : after.answers = before.answers ++ [answer]

namespace Setup

open Session (Fetches)

theorem runQuery_spec (statement : Statement) :
    (∃ error, ((setup.engine.runQuery statement).run session).1 = .error error ∧
        Keeps session ((setup.engine.runQuery statement).run session).2) ∨
      ∃ output, ((setup.engine.runQuery statement).run session).1 = .ok output ∧
        Fetches ⟨statement, output⟩ session ((setup.engine.runQuery statement).run session).2 := by
  have replied : ((setup.engine.runQuery statement).run session).1 =
      (setup.executor.query statement.sql statement.bindings session.world.outside).1.mapError
        (fun error => error.attachStatement statement.sql statement.bindings) := rfl
  have logged : ((setup.engine.runQuery statement).run session).2.answers = session.answers ++
      Answer.record statement
        (setup.executor.query statement.sql statement.bindings session.world.outside).1 := rfl
  rw [replied]
  cases outcome :
      (setup.executor.query statement.sql statement.bindings session.world.outside).1 with
  | error error =>
      left
      rw [outcome] at logged
      refine ⟨_, rfl, Keeps.of_subset (fun kept member => member) rfl ?_⟩
      rw [logged]
      exact List.append_nil _
  | ok output =>
      right
      rw [outcome] at logged
      exact ⟨output, rfl, rfl, rfl, logged⟩

end Setup

/-! ### How one statement is served -/

/-- A statement is answered from the store, by an error of the executor, or by an answer of the
executor that may be stored. -/
inductive Session.Serves (setup : Setup Outside) (uses : List (String × Statement))
    (statement : Statement) (before : Session (Site Outside)) :
    Except QueryError QueryOutput → Session (Site Outside) → Prop where
  | hit {key : String} {entry : MemoryEntry} {output : QueryOutput}
      {after : Session (Site Outside)} (used : (key, statement) ∈ uses)
      (stored : (key, entry) ∈ before.entries)
      (decoded : QueryOutput.ofJson? entry.value = some output)
      (keeps : Keeps before after) : Serves setup uses statement before (.ok output) after
  | refused {error : QueryError} {middle after : Session (Site Outside)}
      (looked : Keeps before middle)
      (asked : ((setup.engine.runQuery statement).run middle).1 = .error error)
      (keeps : Keeps middle after) : Serves setup uses statement before (.error error) after
  | fetched {output : QueryOutput} {middle answered after : Session (Site Outside)}
      (looked : Keeps before middle)
      (asked : ((setup.engine.runQuery statement).run middle).1 = .ok output)
      (fetches : Session.Fetches ⟨statement, output⟩ middle answered)
      (keeps : Keeps answered after) : Serves setup uses statement before (.ok output) after
  | stored {key : String} {output : QueryOutput} {middle answered after : Session (Site Outside)}
      (used : (key, statement) ∈ uses)
      (looked : Keeps before middle)
      (asked : ((setup.engine.runQuery statement).run middle).1 = .ok output)
      (fetches : Session.Fetches ⟨statement, output⟩ middle answered)
      (stores : Stores key ⟨statement, output⟩ answered after) :
      Serves setup uses statement before (.ok output) after

inductive Session.ServesAll (setup : Setup Outside) (uses : List (String × Statement)) :
    Session (Site Outside) → Session (Site Outside) → Prop where
  | refl {session : Session (Site Outside)} : ServesAll setup uses session session
  | step {statement : Statement} {outcome : Except QueryError QueryOutput}
      {before middle after : Session (Site Outside)}
      (first : Session.Serves setup uses statement before outcome middle)
      (rest : ServesAll setup uses middle after) : ServesAll setup uses before after

namespace Setup

open Session (Serves)

variable {uses : List (String × Statement)} {statement : Statement}

theorem runQuery_serves :
    Serves setup uses statement session ((setup.engine.runQuery statement).run session).1
      ((setup.engine.runQuery statement).run session).2 := by
  rcases runQuery_spec setup session statement with ⟨error, replied, keeps⟩ |
    ⟨output, replied, fetches⟩
  · have asked := replied
    rw [replied]
    exact .refused (Keeps.refl session) asked keeps
  · have asked := replied
    rw [replied]
    exact .fetched (Keeps.refl session) asked fetches (Keeps.refl _)

def fetchAndStore (statement : Statement) (directive : CacheDirective) :
    Action (Site Outside) QueryOutput := do
  let output ← setup.engine.runQuery statement
  let _ ← setup.cache.storeOutput statement directive output
  pure output

theorem fetchAndStore_run (statement : Statement) (directive : CacheDirective) :
    (setup.fetchAndStore statement directive).run session =
      match (setup.engine.runQuery statement).run session with
      | (.error error, after) => (.error error, after)
      | (.ok output, after) =>
          (.ok output, (setup.cache.storeOutput statement directive output after).2) := by
  cases ran : (setup.engine.runQuery statement).run session with
  | mk outcome after =>
      cases outcome with
      | error error => exact Action.run_bind_error ran _
      | ok output => exact Action.run_bind_ok ran _

theorem fetchAndStore_serves {middle : Session (Site Outside)} (looked : Keeps session middle)
    (directive : CacheDirective)
    (used : (setup.cache.keyFor statement directive, statement) ∈ uses) :
    Serves setup uses statement session ((setup.fetchAndStore statement directive).run middle).1
      ((setup.fetchAndStore statement directive).run middle).2 := by
  have spec := runQuery_spec setup middle statement
  rw [fetchAndStore_run]
  cases ran : (setup.engine.runQuery statement).run middle with
  | mk outcome reply =>
      have asked := congrArg Prod.fst ran
      rw [ran] at spec
      rcases spec with ⟨error, replied, keeps⟩ | ⟨output, replied, fetches⟩
      · have failed : outcome = .error error := replied
        subst failed
        exact .refused looked asked keeps
      · have answered : outcome = .ok output := replied
        subst answered
        rcases storeOutput_spec setup reply statement directive output with kept | stores
        · exact .fetched looked asked fetches kept
        · exact .stored used looked asked fetches stores

theorem readThrough_run (statement : Statement) (directive : CacheDirective) :
    (setup.cache.readThrough statement directive (setup.engine.runQuery statement)).run session =
      match setup.cache.get QueryOutput.ofJson? (setup.cache.keyFor statement directive) session with
      | (some output, after) => (.ok output, after)
      | (none, after) => (setup.fetchAndStore statement directive).run after := by
  refine (Action.run_bind_lift _ _).trans ?_
  cases setup.cache.get QueryOutput.ofJson? (setup.cache.keyFor statement directive) session with
  | mk found after =>
      cases found with
      | some output => rfl
      | none => rfl

theorem readThrough_serves (directive : CacheDirective)
    (used : (setup.cache.keyFor statement directive, statement) ∈ uses) :
    Serves setup uses statement session
      ((setup.cache.readThrough statement directive
        (setup.engine.runQuery statement)).run session).1
      ((setup.cache.readThrough statement directive
        (setup.engine.runQuery statement)).run session).2 := by
  obtain ⟨looked, held⟩ := get_spec setup session QueryOutput.ofJson?
    (setup.cache.keyFor statement directive)
  rw [readThrough_run]
  cases ran : setup.cache.get QueryOutput.ofJson? (setup.cache.keyFor statement directive)
    session with
  | mk found after =>
      rw [ran] at looked held
      cases found with
      | some output =>
          obtain ⟨entry, stored, decoded⟩ := held output rfl
          exact .hit used stored decoded looked
      | none => exact fetchAndStore_serves setup session looked directive used

theorem keyOf?_eq {builder : Builder} {request : Request}
    (made : builder.statementOf request = .ok statement) :
    setup.engine.keyOf? builder request =
      if request.mayCache setup.config &&
          (setup.engine.directiveFor builder request statement).enabled then
        some (setup.cache.keyFor statement (setup.engine.directiveFor builder request statement),
          statement)
      else none := by
  unfold Engine.keyOf?
  rw [made]
  rfl

theorem keyOf?_refused {builder : Builder} {request : Request} {error : QueryError}
    (made : builder.statementOf request = .error error) :
    setup.engine.keyOf? builder request = none := by
  unfold Engine.keyOf?
  rw [made]
  rfl

theorem read_refused {builder : Builder} {request : Request} {error : QueryError}
    (made : builder.statementOf request = .error error) :
    (setup.engine.read builder request).run session = (.error error, session) := by
  unfold Engine.read
  rw [made]
  rfl

theorem read_run {builder : Builder} {request : Request}
    (made : builder.statementOf request = .ok statement) :
    (setup.engine.read builder request).run session =
      let directive := setup.engine.directiveFor builder request statement
      let fetched :=
        (if request.mayCache setup.config && directive.enabled then
          setup.cache.readThrough statement directive (setup.engine.runQuery statement)
        else setup.engine.runQuery statement).run session
      (fetched.1.map (setup.engine.decrypt builder), fetched.2) := by
  let directive := setup.engine.directiveFor builder request statement
  have run : (setup.engine.read builder request).run session =
      (if request.mayCache setup.config && directive.enabled then
        (do let output ←
              setup.cache.readThrough statement directive (setup.engine.runQuery statement)
            pure (setup.engine.decrypt builder output) : Action (Site Outside) QueryOutput)
      else
        (do let output ← setup.engine.runQuery statement
            pure (setup.engine.decrypt builder output))).run session := by
    unfold Engine.read
    rw [made]
    rfl
  rw [run]
  by_cases enabled : (request.mayCache setup.config && directive.enabled) = true
  · simp only [if_pos enabled, directive, Action.run_bind_pure]
  · simp only [if_neg enabled, directive, Action.run_bind_pure]

/-- A read is refused before anything happens, or serves its statement and decrypts the outcome. -/
theorem read_serves (builder : Builder) (request : Request)
    (listed : ∀ use, setup.engine.keyOf? builder request = some use → use ∈ uses) :
    (∃ error, builder.statementOf request = .error error ∧
        (setup.engine.read builder request).run session = (.error error, session)) ∨
      ∃ statement outcome, builder.statementOf request = .ok statement ∧
        Serves setup uses statement session outcome
          ((setup.engine.read builder request).run session).2 ∧
        ((setup.engine.read builder request).run session).1 =
          outcome.map (setup.engine.decrypt builder) := by
  cases made : builder.statementOf request with
  | error error =>
      exact .inl ⟨error, rfl, read_refused setup session made⟩
  | ok statement =>
      right
      let directive := setup.engine.directiveFor builder request statement
      rw [read_run setup session made]
      by_cases enabled : (request.mayCache setup.config && directive.enabled) = true
      · simp only [directive] at enabled
        simp only [if_pos enabled]
        refine ⟨statement, _, rfl, ?_, rfl⟩
        apply readThrough_serves
        apply listed
        rw [keyOf?_eq setup made, if_pos enabled]
      · simp only [directive] at enabled
        simp only [if_neg enabled]
        exact ⟨statement, _, rfl, runQuery_serves setup session, rfl⟩

theorem warmup_run (builder : Builder) (rest : List Builder) :
    ((setup.engine.warmup setup.cache (builder :: rest)).run session).2 =
      match builder.statement with
      | .error _ => session
      | .ok statement =>
          match (setup.fetchAndStore statement builder.directive).run session with
          | (.error _, after) => after
          | (.ok _, after) => ((setup.engine.warmup setup.cache rest).run after).2 := by
  rw [Engine.warmup]
  cases builder.statement with
  | error error => rfl
  | ok statement =>
      dsimp only
      rw [fetchAndStore_run]
      cases ran : (setup.engine.runQuery statement).run session with
      | mk outcome after =>
          cases outcome with
          | error error => exact congrArg Prod.snd (Action.run_bind_error ran _)
          | ok output =>
              refine (congrArg Prod.snd (Action.run_bind_ok ran _)).trans ?_
              rw [Action.run_bind_lift, Action.run_bind_pure]

theorem warmup_serves (builders : List Builder)
    (listed : ∀ builder ∈ builders, ∀ use, setup.cache.warmKey? builder = some use → use ∈ uses) :
    ∀ session : Session (Site Outside), Session.ServesAll setup uses session
      ((setup.engine.warmup setup.cache builders).run session).2 := by
  induction builders with
  | nil =>
      intro session
      exact .refl
  | cons builder rest ih =>
      intro session
      have others := ih (fun other member => listed other (List.mem_cons_of_mem _ member))
      rw [warmup_run]
      cases made : builder.statement with
      | error error => exact .refl
      | ok statement =>
          have used : (setup.cache.keyFor statement builder.directive, statement) ∈ uses := by
            apply listed builder List.mem_cons_self
            unfold ResultCache.warmKey?
            rw [made]
          have served := fetchAndStore_serves setup session (Keeps.refl session) _ used
          dsimp only
          cases ran : (setup.fetchAndStore statement builder.directive).run session with
          | mk outcome after =>
              rw [ran] at served
              cases outcome with
              | error error => exact .step served .refl
              | ok output => exact .step served (others after)

theorem runExecute_keeps (statement : Statement) :
    Keeps session ((setup.engine.runExecute statement).run session).2 :=
  Keeps.of_subset (fun _ member => member) rfl rfl

theorem invalidateWritten_run (tables : List String) :
    (setup.engine.invalidateWritten tables session).2 =
      if setup.caching.invalidateOnWrite && !tables.isEmpty then
        (setup.cache.invalidate { tables := tables } session).2
      else session := by
  have cases : setup.engine.invalidateWritten tables =
      if setup.caching.invalidateOnWrite && !tables.isEmpty then
        (do let _ ← setup.cache.invalidate { tables := tables }; pure ())
      else pure () := rfl
  rw [cases]
  split
  · rfl
  · rfl

theorem execute_run (builder : Builder) :
    (setup.engine.execute builder).run session =
      match builder.statement with
      | .error error => (.error error, session)
      | .ok statement =>
          match (setup.engine.runExecute statement).run session with
          | (.error error, after) => (.error error, after)
          | (.ok output, after) =>
              (.ok output,
                (setup.engine.invalidateWritten (builder.writtenTables statement.sql) after).2) := by
  unfold Engine.execute
  cases made : builder.statement with
  | error error => rfl
  | ok statement =>
      dsimp only
      cases ran : (setup.engine.runExecute statement).run session with
      | mk outcome after =>
          cases outcome with
          | error error => exact Action.run_bind_error ran _
          | ok output => exact Action.run_bind_ok ran _

/-- An execution leaves the session as it was, as the executor left it, or as an invalidation of the
written tables leaves that. -/
theorem execute_cases (builder : Builder) :
    ((setup.engine.execute builder).run session).2 = session ∨
      ∃ statement, builder.statement = .ok statement ∧
        (((setup.engine.execute builder).run session).2 =
            ((setup.engine.runExecute statement).run session).2 ∨
          builder.writtenTables statement.sql ≠ [] ∧
            ((setup.engine.execute builder).run session).2 =
              (setup.cache.invalidate { tables := builder.writtenTables statement.sql }
                ((setup.engine.runExecute statement).run session).2).2) := by
  rw [execute_run]
  cases builder.statement with
  | error error => exact .inl rfl
  | ok statement =>
      refine .inr ⟨statement, rfl, ?_⟩
      dsimp only
      cases (setup.engine.runExecute statement).run session with
      | mk outcome after =>
          cases outcome with
          | error error => exact .inl rfl
          | ok output =>
              dsimp only
              rw [invalidateWritten_run]
              split
              · rename_i written
                refine .inr ⟨fun none => ?_, rfl⟩
                rw [none, List.isEmpty_nil, Bool.not_true, Bool.and_false] at written
                cases written
              · exact .inl rfl

/-- A write that succeeds leaves nothing in the store that stood under a table that it changed. -/
theorem execute_spec (builder : Builder) :
    Keeps session ((setup.engine.execute builder).run session).2 ∧
      ∀ output statement, builder.statement = .ok statement →
        ((setup.engine.execute builder).run session).1 = .ok output →
        setup.caching.invalidateOnWrite = true →
          ∀ kept ∈ ((setup.engine.execute builder).run session).2.entries, ∀ name,
            ∀ table ∈ builder.writtenTables statement.sql,
              Text.lower name = Text.lower table → kept.1 ∉ session.keysFor name := by
  rw [execute_run]
  cases made : builder.statement with
  | error error => exact ⟨Keeps.refl session, fun _ _ impossible => by cases impossible⟩
  | ok statement =>
      have executed := runExecute_keeps setup session statement
      dsimp only
      cases ran : (setup.engine.runExecute statement).run session with
      | mk outcome after =>
          rw [ran] at executed
          cases outcome with
          | error error => exact ⟨executed, fun _ _ _ impossible => by cases impossible⟩
          | ok output =>
              dsimp only
              rw [invalidateWritten_run]
              obtain ⟨keeps, gone⟩ := invalidate_spec setup after
                { tables := builder.writtenTables statement.sql }
              split
              · refine ⟨executed.trans keeps, ?_⟩
                intro _ other same _ _ kept member name table listed lower indexed
                cases same
                exact gone kept member name table listed lower
                  (executed.indexed kept (keeps.entries kept member) name indexed)
              · rename_i idle
                refine ⟨executed, ?_⟩
                intro _ other same _ enabled kept _ name table listed
                cases same
                have empty : builder.writtenTables statement.sql = [] := by
                  simpa [enabled] using idle
                rw [empty] at listed
                cases listed

end Setup

/-- A step adds nothing to the store but by serving statements of its own or putting a value. -/
theorem Step.apply_cases {uses : List (String × Statement)} (step : Step Outside)
    (listed : ∀ use ∈ step.uses setup, use ∈ uses) :
    Keeps session (step.apply setup session) ∨
      Session.ServesAll setup uses session (step.apply setup session) ∨
      ∃ key value, (key, value) ∈ step.puts ∧
        Session.Puts key value session (step.apply setup session) := by
  cases step with
  | read builder request =>
      have known : ∀ use, setup.engine.keyOf? builder request = some use → use ∈ uses :=
        fun use found => listed use (Option.mem_toList.mpr found)
      rcases setup.read_serves session builder request known with ⟨error, _, unmoved⟩ |
        ⟨statement, outcome, _, served, _⟩
      · left
        rw [Step.apply, unmoved]
        exact Keeps.refl session
      · exact .inr (.inl (.step served .refl))
  | execute builder => exact .inl (setup.execute_spec session builder).1
  | warmup builders =>
      right
      left
      apply setup.warmup_serves
      intro builder member use found
      exact listed use (List.mem_filterMap.mpr ⟨builder, member, found⟩)
  | lookUp accepts key => exact .inl (setup.get_spec session _ key).1
  | holds key => exact .inl (Keeps.of_subset (fun _ member => member) rfl rfl)
  | put key value ttl =>
      exact .inr (.inr ⟨key, value, List.mem_cons_self, setup.set_spec session key value ttl⟩)
  | erase key => exact .inl (setup.delete_keeps session key)
  | invalidate target => exact .inl (setup.invalidate_spec session target).1
  | clear => exact .inl (setup.clear_keeps session)
  | evictExpired => exact .inl (setup.evictExpired_keeps session)
  | resetStats => exact .inl (Keeps.of_subset (fun _ member => member) rfl rfl)
  | outside change => exact .inl (Keeps.of_subset (fun _ member => member) rfl rfl)

end BoundQuery
