import BoundQuery.Proofs.BoundedMap
import BoundQuery.Proofs.IndexRelation
import BoundQuery.Proofs.Operations

/-!
The states that a session can be in: those to which its steps lead, and whatever else is done to its
store and to its indices. In each of them the store holds every key once and the indices every name.
-/

set_option autoImplicit false

namespace BoundQuery

inductive IndexCall where
  | insert (name key : String)
  | take (name : String)
  | forget (key : String)
  | clear

def KeyIndex.after (index : KeyIndex) : IndexCall → KeyIndex
  | .insert name key => index.insert name key
  | .take name => (index.take name).2
  | .forget key => index.forgetKey key
  | .clear => {}

variable {Outside : Type}

/-- The store and the two indices may be in other hands too. -/
inductive Setup.Arises (setup : Setup Outside) : Session (Site Outside) → Prop where
  | opening (outside : Outside) (capacity : Nat) (defaultTtl : Option Nat) :
      Arises setup (Setup.opening outside capacity defaultTtl)
  | step {session : Session (Site Outside)} (before : Arises setup session) (step : Step Outside) :
      Arises setup (step.apply setup session)
  | store {session : Session (Site Outside)} (before : Arises setup session) (call : StoreCall) :
      Arises setup { session with world := { session.world with
        store := session.world.store.after ⟨setup.clock session.world.outside, call⟩ } }
  | tables {session : Session (Site Outside)} (before : Arises setup session) (call : IndexCall) :
      Arises setup { session with cache :=
        { session.cache with tables := session.cache.tables.after call } }
  | tags {session : Session (Site Outside)} (before : Arises setup session) (call : IndexCall) :
      Arises setup { session with cache :=
        { session.cache with tags := session.cache.tags.after call } }

structure CacheState.Orderly (state : CacheState) : Prop where
  tables : state.tables.Distinct
  tags : state.tags.Distinct

theorem KeyIndex.Distinct.after {index : KeyIndex} (distinct : index.Distinct) (call : IndexCall) :
    (index.after call).Distinct := by
  cases call with
  | insert name key => exact distinct.insert name key
  | take name => exact distinct.take name
  | forget key => exact distinct.forgetKey key
  | clear => exact KeyIndex.Distinct.empty

namespace CacheState.Orderly

variable {state : CacheState}

theorem forget (orderly : state.Orderly) (key : String) : (state.forget key).Orderly :=
  ⟨orderly.tables.forgetKey key, orderly.tags.forgetKey key⟩

theorem takeNames (orderly : state.Orderly) (target : Invalidation) :
    (state.takeNames target).2.Orderly :=
  ⟨KeyIndex.Distinct.takeAll target.tables orderly.tables,
    KeyIndex.Distinct.takeAll target.tags orderly.tags⟩

theorem foldl_insert (key : String) (names : List String) :
    ∀ {index : KeyIndex}, index.Distinct →
      (names.foldl (fun index name => index.insert name key) index).Distinct := by
  induction names with
  | nil => exact fun distinct => distinct
  | cons name rest ih => exact fun distinct => ih (distinct.insert name key)

theorem indexUnder (orderly : state.Orderly) (tables tags : List String) (key : String) :
    (ResultCache.indexUnder tables tags key state).Orderly :=
  ⟨foldl_insert key tables orderly.tables, foldl_insert key tags orderly.tags⟩

theorem counted (orderly : state.Orderly) (stats : CacheStats) :
    Orderly { state with stats := stats } :=
  ⟨orderly.tables, orderly.tags⟩

theorem foldl_forget (keys : List String) :
    ∀ {state : CacheState}, state.Orderly → (keys.foldl CacheState.forget state).Orderly := by
  induction keys with
  | nil => exact fun orderly => orderly
  | cons key rest ih => exact fun orderly => ih (orderly.forget key)

end CacheState.Orderly

namespace Setup

variable (setup : Setup Outside) (session : Session (Site Outside))

theorem dropKeys_run (keys : List String) :
    ∀ session : Session (Site Outside), (setup.cache.dropKeys keys session).2 =
      { world := { session.world with store := keys.foldl MemoryCache.remove session.world.store }
        cache := keys.foldl CacheState.forget session.cache } := by
  induction keys with
  | nil => exact fun _ => rfl
  | cons key rest ih =>
      intro session
      rw [dropKeys_cons, ih]
      rfl

theorem dropKeys_size (keys : List String) :
    ∀ session : Session (Site Outside), session.world.store.Distinct →
      (setup.cache.dropKeys keys session).1 +
        (keys.foldl MemoryCache.remove session.world.store).size = session.world.store.size := by
  induction keys with
  | nil => exact fun _ _ => Nat.zero_add _
  | cons key rest ih =>
      intro session distinct
      have fewer := distinct.size_remove key
      have others := ih (dropped session key) (distinct.remove key)
      have counted := congrArg Prod.fst (dropKeys_run_cons setup session key rest)
      change _ + (rest.foldl MemoryCache.remove (session.world.store.remove key)).size = _ at others
      rw [counted, List.foldl_cons]
      change _ = (session.world.store.remove key).size at others
      omega

end Setup

/-! ### What every operation keeps -/

namespace Setup

open CacheState (Orderly)

variable (setup : Setup Outside) {session : Session (Site Outside)}

theorem get_orderly {Item : Type} (decode? : Json → Option Item) (key : String)
    (orderly : session.cache.Orderly) :
    (setup.cache.get decode? key session).2.cache.Orderly := by
  rcases looked : setup.cache.adapter.get key session.world with ⟨found, world⟩
  by_cases hit : ∃ value item, found = .ok (some value) ∧ decode? value = some item
  · obtain ⟨value, item, rfl, decoded⟩ := hit
    rw [setup.cache.get_of_found session key looked decoded]
    exact orderly.counted _
  · have missing : ∀ value, found = .ok (some value) → decode? value = none := by
      intro value here
      refine Option.eq_none_iff_forall_ne_some.mpr ?_
      intro item decoded
      exact hit ⟨value, item, here, decoded⟩
    obtain ⟨state, left, run⟩ := setup.cache.get_of_missing session key looked missing
    rw [run]
    rcases left with rfl | rfl
    · exact orderly.counted _
    · exact (orderly.forget key).counted _

theorem storeOutput_orderly (statement : Statement) (directive : CacheDirective)
    (output : QueryOutput) (orderly : session.cache.Orderly) :
    (setup.cache.storeOutput statement directive output session).2.cache.Orderly := by
  unfold ResultCache.storeOutput
  split
  · exact orderly
  · exact (orderly.counted session.cache.stats.countSet).indexUnder _ _ _

theorem fetchAndStore_orderly (statement : Statement) (directive : CacheDirective)
    (orderly : session.cache.Orderly) :
    ((setup.fetchAndStore statement directive).run session).2.cache.Orderly := by
  have asked : ((setup.engine.runQuery statement).run session).2.cache.Orderly := orderly
  rw [fetchAndStore_run]
  cases ran : (setup.engine.runQuery statement).run session with
  | mk outcome after =>
      rw [ran] at asked
      cases outcome with
      | error error => exact asked
      | ok output => exact storeOutput_orderly setup statement directive output asked

theorem read_orderly (builder : Builder) (request : Request) (orderly : session.cache.Orderly) :
    ((setup.engine.read builder request).run session).2.cache.Orderly := by
  cases made : builder.statementOf request with
  | error error =>
      rw [read_refused setup session made]
      exact orderly
  | ok statement =>
      rw [read_run setup session made]
      by_cases enabled : (request.mayCache setup.config &&
        (setup.engine.directiveFor builder request statement).enabled) = true
      · simp only [if_pos enabled, readThrough_run]
        have looked := get_orderly setup QueryOutput.ofJson?
          (setup.cache.keyFor statement (setup.engine.directiveFor builder request statement))
          orderly
        cases ran : setup.cache.get QueryOutput.ofJson? (setup.cache.keyFor statement
          (setup.engine.directiveFor builder request statement)) session with
        | mk found after =>
            rw [ran] at looked
            cases found with
            | some output => exact looked
            | none => exact fetchAndStore_orderly setup statement _ looked
      · simp only [if_neg enabled]
        exact orderly

theorem warmup_orderly (builders : List Builder) :
    ∀ {session : Session (Site Outside)}, session.cache.Orderly →
      ((setup.engine.warmup setup.cache builders).run session).2.cache.Orderly := by
  induction builders with
  | nil => exact fun orderly => orderly
  | cons builder rest ih =>
      intro session orderly
      rw [warmup_run]
      cases builder.statement with
      | error error => exact orderly
      | ok statement =>
          have fetched := fetchAndStore_orderly setup statement builder.directive orderly
          dsimp only
          cases ran : (setup.fetchAndStore statement builder.directive).run session with
          | mk outcome after =>
              rw [ran] at fetched
              cases outcome with
              | error error => exact fetched
              | ok output => exact ih fetched

theorem invalidate_orderly (target : Invalidation) (orderly : session.cache.Orderly) :
    (setup.cache.invalidate target session).2.cache.Orderly := by
  have named : (namesTaken session target).cache.Orderly :=
    (orderly.counted session.cache.stats.countInvalidation).takeNames target
  rw [invalidate_eq]
  dsimp only
  rw [dropKeys_run]
  exact (Orderly.foldl_forget _ named).counted _

theorem execute_orderly (builder : Builder) (orderly : session.cache.Orderly) :
    ((setup.engine.execute builder).run session).2.cache.Orderly := by
  rcases setup.execute_cases session builder with same | ⟨statement, _, executed⟩
  · rw [same]
    exact orderly
  · have after : ((setup.engine.runExecute statement).run session).2.cache.Orderly := orderly
    rcases executed with same | ⟨_, same⟩
    · rw [same]
      exact after
    · rw [same]
      exact invalidate_orderly setup _ after

theorem delete_orderly (key : String) (orderly : session.cache.Orderly) :
    (setup.cache.delete key session).2.cache.Orderly := by
  have forgotten := orderly.forget key
  unfold ResultCache.delete
  simp only [bind, StateT.bind, forget_run, removal_run]
  generalize (session.world.store.find? key).isSome = held
  cases held with
  | true => exact forgotten.counted _
  | false => exact forgotten

end Setup

theorem Step.apply_orderly {setup : Setup Outside} {session : Session (Site Outside)}
    (step : Step Outside) (orderly : session.cache.Orderly) :
    (step.apply setup session).cache.Orderly := by
  cases step with
  | read builder request => exact Setup.read_orderly setup builder request orderly
  | execute builder => exact Setup.execute_orderly setup builder orderly
  | warmup builders => exact Setup.warmup_orderly setup builders orderly
  | lookUp accepts key => exact Setup.get_orderly setup _ key orderly
  | holds key => exact orderly
  | put key value ttl => exact orderly.counted _
  | erase key => exact Setup.delete_orderly setup key orderly
  | invalidate target => exact Setup.invalidate_orderly setup target orderly
  | clear => exact ⟨KeyIndex.Distinct.empty, KeyIndex.Distinct.empty⟩
  | evictExpired => exact orderly
  | resetStats => exact orderly.counted _
  | outside change => exact orderly

theorem Move.distinct {setup : Setup Outside} {passes : Outside → Outside → Prop}
    {events : List Event} {before after : Site Outside}
    (move : Move setup passes events before after) (distinct : before.store.Distinct) :
    after.store.Distinct := by
  cases move with
  | elsewhere same passed =>
      rw [same]
      exact distinct
  | looked before key => exact distinct.get _ key
  | expired before => exact distinct.dropExpired _
  | stored before key content lifetime => exact distinct.set _ key _ _
  | dropped before key => exact distinct.remove key
  | cleared before => exact List.nodup_nil

theorem Moves.distinct {setup : Setup Outside} {passes : Outside → Outside → Prop}
    {events : List Event} {before after : Site Outside}
    (moves : Moves setup passes events before after) :
    before.store.Distinct → after.store.Distinct := by
  induction moves with
  | refl site => exact fun distinct => distinct
  | step move rest ih => exact fun distinct => ih (move.distinct distinct)

/-- The store holds each key once, and the indices each name. -/
theorem Setup.Arises.orderly {setup : Setup Outside} {session : Session (Site Outside)}
    (arises : setup.Arises session) :
    session.world.store.Distinct ∧ session.cache.Orderly := by
  induction arises with
  | opening outside capacity defaultTtl =>
      exact ⟨MemoryCache.Distinct.empty capacity defaultTtl,
        KeyIndex.Distinct.empty, KeyIndex.Distinct.empty⟩
  | step before step ih =>
      refine ⟨?_, step.apply_orderly ih.2⟩
      exact (Step.apply_moves setup.allows_all step.allowed_all _).distinct ih.1
  | store before call ih => exact ⟨ih.1.after _, ih.2⟩
  | tables before call ih => exact ⟨ih.1, ih.2.tables.after call, ih.2.tags⟩
  | tags before call ih => exact ⟨ih.1, ih.2.tables, ih.2.tags.after call⟩

end BoundQuery
