import BoundQuery.Proofs.IndexRelation
import BoundQuery.Proofs.Tagging
import BoundQuery.Rehearsal

/-!
What a look-up does to the indices, whatever the adapter. A value that is reported leaves them as
they are; a key without one is forgotten, and then it makes no difference whether the adapter had
nothing under it or failed.
-/

set_option autoImplicit false

namespace BoundQuery

/-- Every pair of a name and a key is still there. -/
structure CacheState.Retains (before after : CacheState) : Prop where
  tables : ∀ name kept, kept ∈ before.tables.keysFor name → kept ∈ after.tables.keysFor name
  tags : ∀ name kept, kept ∈ before.tags.keysFor name → kept ∈ after.tags.keysFor name

/-- The key stands under the given tables and tags and under no others; the pairs of other keys are
still there. -/
structure CacheState.Refiles (before after : CacheState) (key : String)
    (tables tags : List String) : Prop where
  tables : ∀ name, key ∈ after.tables.keysFor name ↔
    ∃ table ∈ tables, Text.lower name = Text.lower table
  tags : ∀ name, key ∈ after.tags.keysFor name ↔ ∃ tag ∈ tags, Text.lower name = Text.lower tag
  otherTables : ∀ name kept, kept ≠ key → kept ∈ before.tables.keysFor name →
    kept ∈ after.tables.keysFor name
  otherTags : ∀ name kept, kept ≠ key → kept ∈ before.tags.keysFor name →
    kept ∈ after.tags.keysFor name

namespace CacheState

variable {before after : CacheState} {key : String}

theorem Retains.refl (state : CacheState) : state.Retains state :=
  ⟨fun _ _ member => member, fun _ _ member => member⟩

theorem Retains.counted (retains : before.Retains after) (stats : CacheStats) :
    before.Retains { after with stats := stats } :=
  ⟨retains.tables, retains.tags⟩

theorem Retains.indexUnder (retains : before.Retains after) (tables tags : List String)
    (key : String) : before.Retains (ResultCache.indexUnder tables tags key after) := by
  constructor
  · intro name kept member
    exact (KeyIndex.mem_keysFor_foldl_insert_iff tables).mpr
      (.inl (retains.tables name kept member))
  · intro name kept member
    exact (KeyIndex.mem_keysFor_foldl_insert_iff tags).mpr (.inl (retains.tags name kept member))

theorem Refiles.counted {tables tags : List String}
    (refiles : before.Refiles after key tables tags) (stats : CacheStats) :
    before.Refiles { after with stats := stats } key tables tags :=
  ⟨refiles.tables, refiles.tags, refiles.otherTables, refiles.otherTags⟩

theorem Refiles.of_forget (state : CacheState) (key : String) :
    state.Refiles (state.forget key) key [] [] := by
  constructor
  · intro name
    have gone : key ∉ (state.forget key).tables.keysFor name :=
      KeyIndex.not_mem_keysFor_forgetKey state.tables key name
    simpa using gone
  · intro name
    have gone : key ∉ (state.forget key).tags.keysFor name :=
      KeyIndex.not_mem_keysFor_forgetKey state.tags key name
    simpa using gone
  · exact fun name kept differs member => KeyIndex.mem_keysFor_forgetKey member differs
  · exact fun name kept differs member => KeyIndex.mem_keysFor_forgetKey member differs

theorem Refiles.indexUnder (refiles : before.Refiles after key [] []) (tables tags : List String) :
    before.Refiles (ResultCache.indexUnder tables tags key after) key tables tags := by
  constructor
  · intro name
    refine (KeyIndex.mem_keysFor_foldl_insert_iff tables).trans ?_
    simp [refiles.tables]
  · intro name
    refine (KeyIndex.mem_keysFor_foldl_insert_iff tags).trans ?_
    simp [refiles.tags]
  · intro name kept differs member
    exact (KeyIndex.mem_keysFor_foldl_insert_iff tables).mpr
      (.inl (refiles.otherTables name kept differs member))
  · intro name kept differs member
    exact (KeyIndex.mem_keysFor_foldl_insert_iff tags).mpr
      (.inl (refiles.otherTags name kept differs member))

end CacheState

variable {World : Type}

namespace ResultCache

variable (cache : ResultCache World) (session : Session World) (key : String)

theorem get_of_no_value {Item : Type} (decode? : Json → Option Item)
    {looked : Except CacheError (Option Json)} {world : World}
    (asked : cache.adapter.get key session.world = (looked, world))
    (absent : ∀ value, looked ≠ .ok (some value)) :
    cache.get decode? key session =
      (none,
        ⟨world, { session.cache.forget key with stats := session.cache.stats.countMiss }⟩) := by
  unfold get lookup
  simp only [bind, StateT.bind, Session.inWorld, asked]
  cases looked with
  | error error => rfl
  | ok found =>
      cases found with
      | none => rfl
      | some value => exact absurd rfl (absent value)

theorem get_of_value {Item : Type} (decode? : Json → Option Item) {value : Json} {world : World}
    (asked : cache.adapter.get key session.world = (.ok (some value), world)) :
    ∃ stats, (cache.get decode? key session).2 =
      ⟨world, { session.cache with stats := stats }⟩ := by
  unfold get lookup
  simp only [bind, StateT.bind, Session.inWorld, asked, pure, pure_run]
  cases decode? value with
  | none => exact ⟨_, rfl⟩
  | some item => exact ⟨_, rfl⟩

end ResultCache

namespace Engine

variable {engine : Engine World} {cache : ResultCache World} {builder : Builder}
variable {request : Request} {key : String} {statement : Statement} {session : Session World}

theorem read_retains (kept : engine.cache = some cache)
    (keyed : engine.keyOf? builder request = some (key, statement)) {value : Json} {world : World}
    (asked : cache.adapter.get key session.world = (.ok (some value), world)) :
    session.cache.Retains ((engine.read builder request).run session).2.cache := by
  obtain ⟨stats, left⟩ := cache.get_of_value session key QueryOutput.ofJson? asked
  have looked : session.cache.Retains { session.cache with stats := stats } :=
    (CacheState.Retains.refl session.cache).counted stats
  cases ran : cache.get QueryOutput.ofJson? key session with
  | mk found missed =>
      rw [ran] at left
      cases left
      cases found with
      | some output =>
          rw [read_through kept keyed, ran]
          exact looked
      | none =>
          rcases read_records kept keyed ran with same | recorded
          · rw [same]
            exact looked
          · rw [recorded]
            exact (looked.counted _).indexUnder _ _ _

/-- After a read that finds no value the key stands where its result was stored, nowhere else. -/
theorem read_refiles (kept : engine.cache = some cache)
    (keyed : engine.keyOf? builder request = some (key, statement))
    (absent : ∀ value, (cache.adapter.get key session.world).1 ≠ .ok (some value)) :
    let after := ((engine.read builder request).run session).2.cache
    (after.stats.sets = session.cache.stats.sets ∧ session.cache.Refiles after key [] []) ∨
      (after.stats.sets = session.cache.stats.sets + 1 ∧
        session.cache.Refiles after key (referencedTables statement.sql)
          (engine.directiveFor builder request statement).tags) := by
  have looked := cache.get_of_no_value session key QueryOutput.ofJson? (Prod.eta _).symm absent
  have forgotten : session.cache.Refiles
      { session.cache.forget key with stats := session.cache.stats.countMiss } key [] [] :=
    (CacheState.Refiles.of_forget session.cache key).counted _
  intro after
  rcases read_records kept keyed looked with same | recorded
  · left
    unfold after
    rw [same]
    exact ⟨rfl, forgotten⟩
  · right
    unfold after
    rw [recorded]
    exact ⟨rfl, (forgotten.counted _).indexUnder _ _⟩

end Engine

/-- Nothing is taken from the indices when the adapter reports a value. When it reports none the key
goes from both, and a failure counts as none: only a read that stores its result anew records the
key again, under the names of that result. -/
theorem failed_look_up_unindexes_key (cache : ResultCache World) (session : Session World)
    (key : String) :
    let looked := (cache.adapter.get key session.world).1
    ((∃ value, looked = .ok (some value)) →
      (∀ (Item : Type) (decode? : Json → Option Item),
        session.cache.Retains (cache.get decode? key session).2.cache) ∧
      ∀ (engine : Engine World) (builder : Builder) (request : Request) (statement : Statement),
        engine.cache = some cache → engine.keyOf? builder request = some (key, statement) →
          session.cache.Retains ((engine.read builder request).run session).2.cache) ∧
    ((∃ error, looked = .error error) ∨ looked = .ok none →
      (∀ (Item : Type) (decode? : Json → Option Item),
        (cache.get decode? key session).1 = none ∧
          session.cache.Refiles (cache.get decode? key session).2.cache key [] []) ∧
      ∀ (engine : Engine World) (builder : Builder) (request : Request) (statement : Statement),
        engine.cache = some cache → engine.keyOf? builder request = some (key, statement) →
          let after := ((engine.read builder request).run session).2.cache
          (after.stats.sets = session.cache.stats.sets ∧ session.cache.Refiles after key [] []) ∨
            (after.stats.sets = session.cache.stats.sets + 1 ∧
              session.cache.Refiles after key (referencedTables statement.sql)
                (engine.directiveFor builder request statement).tags)) := by
  intro looked
  have run : cache.adapter.get key session.world =
      (looked, (cache.adapter.get key session.world).2) := rfl
  constructor
  · rintro ⟨value, reported⟩
    rw [reported] at run
    refine ⟨?_, fun engine builder request statement kept keyed =>
      Engine.read_retains kept keyed run⟩
    intro Item decode?
    obtain ⟨stats, after⟩ := cache.get_of_value session key decode? run
    rw [after]
    exact (CacheState.Retains.refl session.cache).counted stats
  · intro without
    have absent : ∀ value, looked ≠ .ok (some value) := by
      intro value reported
      rcases without with ⟨error, failed⟩ | nothing
      · rw [failed] at reported
        cases reported
      · rw [nothing] at reported
        cases reported
    refine ⟨?_, fun engine builder request statement kept keyed =>
      Engine.read_refiles kept keyed absent⟩
    intro Item decode?
    rw [cache.get_of_no_value session key decode? run absent]
    exact ⟨rfl, (CacheState.Refiles.of_forget session.cache key).counted _⟩

def rehearsedCache : ResultCache Rehearsal :=
  { adapter := Rehearsal.scanningAdapter, config := {} }

def rehearsedEngine : Engine Rehearsal :=
  { executor := Rehearsal.executor
    profile := Dialect.sqlite.profile
    cache := some rehearsedCache }

def rehearsedStart : Session Rehearsal :=
  ⟨{ replies := [.answer { rows := [[("name", .string "Ada")]], rowCount := 1 } {}] }, {}⟩

def failingIn (operations : List StoreOperation) (session : Session Rehearsal) :
    Session Rehearsal :=
  { session with world := { session.world with failing := operations } }

/-- A read stores the ranking. While look-ups fail, asking for it takes it from the index of
`users`, although it is still stored. -/
theorem failed_look_up_unindexes_ranking :
    ∃ builder, rehearsedEngine.query.applyAll (rankingCalls []) = .ok builder ∧
      let stored := ((rehearsedEngine.read builder .whole).run rehearsedStart).2
      let missed := (rehearsedCache.get some "ranking" (failingIn [.get] stored)).2
      "ranking" ∈ stored.cache.tables.keysFor "users" ∧
        stored.cache.Refiles missed.cache "ranking" [] [] ∧
        (missed.world.store.find? "ranking").isSome = true := by
  have facts : (do
      let builder ← rehearsedEngine.query.applyAll (rankingCalls [])
      let stored := ((rehearsedEngine.read builder .whole).run rehearsedStart).2
      pure (stored.cache.tables.keysFor "users",
        ((rehearsedCache.get some "ranking" (failingIn [.get] stored)).2.world.store.find?
          "ranking").isSome)).toOption = some (["ranking"], true) := by decide +kernel
  obtain ⟨builder, made, last⟩ := exists_of_bind_ok (ok_of_toOption facts)
  obtain ⟨indexed, held⟩ := Prod.mk.inj (Except.ok.inj last)
  refine ⟨builder, made, ?_⟩
  intro stored missed
  have lost := (failed_look_up_unindexes_key rehearsedCache (failingIn [.get] stored)
    "ranking").2 (.inl ⟨.backend "down", rfl⟩)
  refine ⟨?_, (lost.1 Json some).2, held⟩
  rw [indexed]
  exact List.mem_cons_self

/-- Once the store works again an invalidation of `users` deletes nothing, and the ranking is still
served. -/
theorem ranking_outlives_its_invalidation :
    ∃ builder, rehearsedEngine.query.applyAll (rankingCalls []) = .ok builder ∧
      let stored := ((rehearsedEngine.read builder .whole).run rehearsedStart).2
      let missed := (rehearsedCache.get some "ranking" (failingIn [.get] stored)).2
      let invalidated := rehearsedCache.invalidate { tables := ["users"] } (failingIn [] missed)
      let again := ((rehearsedEngine.read builder .whole).run invalidated.2).2
      "ranking" ∈ stored.cache.tables.keysFor "users" ∧
        "ranking" ∉ missed.cache.tables.keysFor "users" ∧ invalidated.1 = 0 ∧
        again.cache.stats.hits = 1 ∧ again.world.received.length = 1 := by
  have facts : (do
      let builder ← rehearsedEngine.query.applyAll (rankingCalls [])
      let stored := ((rehearsedEngine.read builder .whole).run rehearsedStart).2
      let missed := (rehearsedCache.get some "ranking" (failingIn [.get] stored)).2
      let invalidated := rehearsedCache.invalidate { tables := ["users"] } (failingIn [] missed)
      let again := ((rehearsedEngine.read builder .whole).run invalidated.2).2
      pure (stored.cache.tables.keysFor "users", missed.cache.tables.keysFor "users",
        invalidated.1, again.cache.stats.hits, again.world.received.length)).toOption =
      some (["ranking"], [], 0, 1, 1) := by decide +kernel
  obtain ⟨builder, made, last⟩ := exists_of_bind_ok (ok_of_toOption facts)
  obtain ⟨before, others⟩ := Prod.mk.inj (Except.ok.inj last)
  obtain ⟨after, counts⟩ := Prod.mk.inj others
  obtain ⟨dropped, reads⟩ := Prod.mk.inj counts
  obtain ⟨hits, received⟩ := Prod.mk.inj reads
  refine ⟨builder, made, ?_⟩
  intro stored missed invalidated again
  refine ⟨?_, ?_, dropped, hits, received⟩
  · rw [before]
    exact List.mem_cons_self
  · rw [after]
    exact List.not_mem_nil

end BoundQuery
