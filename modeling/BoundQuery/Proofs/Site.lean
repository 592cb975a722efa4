import BoundQuery.Engine.Write
import BoundQuery.Proofs.Reading
import BoundQuery.Proofs.Storage

/-!
An engine with a store in memory, at work in some outside world: the database, the clock and
whatever else there is. The site keeps beside the store a list of all the answers that the executor
has given, so that it can be said where a result comes from; no operation looks at it.
-/

set_option autoImplicit false

namespace BoundQuery

structure Answer where
  statement : Statement
  output : QueryOutput

structure Site (Outside : Type) where
  outside : Outside
  store : MemoryCache := {}
  answers : List Answer := []

/-- What an engine over a store in memory is made of. -/
structure Setup (Outside : Type) where
  clock : Outside → Nat
  executor : Executor Outside
  profile : Profile
  config : EngineConfig := {}
  caching : CacheConfig := {}
  decryptor : Option Decryptor := none

def Answer.record (statement : Statement) : Except QueryError QueryOutput → List Answer
  | .ok output => [⟨statement, output⟩]
  | .error _ => []

namespace Setup

variable {Outside : Type}

def executorAt (executor : Executor Outside) : Executor (Site Outside) :=
  { query := fun sql bindings site =>
      let result := executor.query sql bindings site.outside
      (result.1, { site with
        outside := result.2, answers := site.answers ++ Answer.record ⟨sql, bindings⟩ result.1 })
    execute := fun sql bindings site =>
      let result := executor.execute sql bindings site.outside
      (result.1, { site with outside := result.2 }) }

def cache (setup : Setup Outside) : ResultCache (Site Outside) :=
  { adapter := MemoryCache.adapter (fun site => setup.clock site.outside) Site.store
      (fun store site => { site with store := store })
    config := setup.caching }

def engine (setup : Setup Outside) : Engine (Site Outside) :=
  { executor := executorAt setup.executor
    profile := setup.profile
    config := setup.config
    cache := some setup.cache
    decryptor := setup.decryptor }

/-- The engine without a cache. -/
def plainEngine (setup : Setup Outside) : Engine (Site Outside) :=
  { setup.engine with cache := none }

end Setup

/-- A look-up only tells whether the value that is found will do. Whatever else may go on between
two operations is a change outside. -/
inductive Step (Outside : Type) where
  | read (builder : Builder) (request : Request)
  | execute (builder : Builder)
  | warmup (builders : List Builder)
  | lookUp (accepts : Json → Bool) (key : String)
  | holds (key : String)
  | put (key : String) (value : Json) (ttl : Option Nat)
  | erase (key : String)
  | invalidate (target : Invalidation)
  | clear
  | evictExpired
  | resetStats
  | outside (change : Outside → Outside)

variable {Outside : Type}

namespace Session

def entries (session : Session (Site Outside)) : List (String × MemoryEntry) :=
  session.world.store.entries

def keysFor (session : Session (Site Outside)) (name : String) : List String :=
  session.cache.tables.keysFor name

def answers (session : Session (Site Outside)) : List Answer :=
  session.world.answers

end Session

namespace Step

def apply (setup : Setup Outside) (session : Session (Site Outside)) :
    Step Outside → Session (Site Outside)
  | read builder request => ((setup.engine.read builder request).run session).2
  | execute builder => ((setup.engine.execute builder).run session).2
  | warmup builders => ((setup.engine.warmup setup.cache builders).run session).2
  | lookUp accepts key =>
      (setup.cache.get (fun value => if accepts value then some value else none) key session).2
  | holds key => (setup.cache.holds key session).2
  | put key value ttl => (setup.cache.set key value ttl session).2
  | erase key => (setup.cache.delete key session).2
  | invalidate target => (setup.cache.invalidate target session).2
  | clear => (setup.cache.clear session).2
  | evictExpired =>
      { session with world := { session.world with
        store := (session.world.store.evictExpired (setup.clock session.world.outside)).2 } }
  | resetStats => (ResultCache.resetStats session).2
  | outside change =>
      { session with world := { session.world with outside := change session.world.outside } }

def run (setup : Setup Outside) (session : Session (Site Outside)) :
    List (Step Outside) → Session (Site Outside)
  | [] => session
  | step :: rest => run setup (step.apply setup session) rest

theorem run_append (setup : Setup Outside) (first second : List (Step Outside)) :
    ∀ session, run setup session (first ++ second) =
      run setup (run setup session first) second := by
  induction first with
  | nil =>
      intro session
      rfl
  | cons step rest ih =>
      intro session
      exact ih (step.apply setup session)

end Step

/-- The key under which a request is read through the cache, with its statement. -/
def Engine.keyOf? {World : Type} (engine : Engine World) (builder : Builder) (request : Request) :
    Option (String × Statement) :=
  match engine.cache, builder.statementOf request with
  | some cache, .ok statement =>
      let directive := engine.directiveFor builder request statement
      if request.mayCache engine.config && directive.enabled then
        some (cache.keyFor statement directive, statement)
      else none
  | _, _ => none

/-- The key under which a result is stored ahead of its first read. -/
def ResultCache.warmKey? {World : Type} (cache : ResultCache World) (builder : Builder) :
    Option (String × Statement) :=
  match builder.statement with
  | .ok statement => some (cache.keyFor statement builder.directive, statement)
  | .error _ => none

namespace Step

def uses (setup : Setup Outside) : Step Outside → List (String × Statement)
  | read builder request => (setup.engine.keyOf? builder request).toList
  | warmup builders => builders.filterMap setup.cache.warmKey?
  | _ => []

/-- The keys and the values that were stored by hand. -/
def puts : Step Outside → List (String × Json)
  | put key value _ => [(key, value)]
  | _ => []

end Step

/-- No key is used for two statements. -/
def KeysIdentify (uses : List (String × Statement)) : Prop :=
  ∀ first ∈ uses, ∀ second ∈ uses, first.1 = second.1 → first.2 = second.2

/-- Nothing is added to the store, and what stays in it stays indexed. -/
structure Session.Keeps (before after : Session (Site Outside)) : Prop where
  entries : ∀ kept ∈ after.entries, kept ∈ before.entries
  indexed : ∀ kept ∈ after.entries, ∀ name, kept.1 ∈ before.keysFor name →
    kept.1 ∈ after.keysFor name
  answers : after.answers = before.answers

/-- An output is put under a key that is indexed under all the tables of its statement. -/
structure Session.Stores (key : String) (answer : Answer)
    (before after : Session (Site Outside)) : Prop where
  entries : ∀ kept ∈ after.entries, kept ∈ before.entries ∨
    (kept.1 = key ∧ kept.2.value = answer.output.toJson)
  indexed : ∀ name kept, kept ∈ before.keysFor name → kept ∈ after.keysFor name
  own : ∀ name ∈ referencedTables answer.statement.sql, key ∈ after.keysFor name
  answers : after.answers = before.answers

structure Session.Puts (key : String) (value : Json) (before after : Session (Site Outside)) :
    Prop where
  entries : ∀ kept ∈ after.entries, kept ∈ before.entries ∨
    (kept.1 = key ∧ kept.2.value = value)
  tables : after.cache.tables = before.cache.tables
  answers : after.answers = before.answers

namespace Session

variable {before middle after : Session (Site Outside)}

theorem Keeps.refl (session : Session (Site Outside)) : Keeps session session :=
  ⟨fun _ member => member, fun _ _ _ member => member, rfl⟩

theorem Keeps.trans (first : Keeps before middle) (second : Keeps middle after) :
    Keeps before after := by
  refine ⟨?_, ?_, second.answers.trans first.answers⟩
  · intro kept member
    exact first.entries kept (second.entries kept member)
  · intro kept member name indexed
    have there := first.indexed kept (second.entries kept member) name indexed
    exact second.indexed kept member name there

theorem Keeps.of_subset (entries : ∀ kept ∈ after.entries, kept ∈ before.entries)
    (tables : after.cache.tables = before.cache.tables)
    (answers : after.answers = before.answers) : Keeps before after := by
  refine ⟨entries, ?_, answers⟩
  intro kept member name indexed
  unfold keysFor
  rw [tables]
  exact indexed

theorem Keeps.of_forget {key : String} (entries : ∀ kept ∈ after.entries, kept ∈ before.entries)
    (gone : ∀ kept ∈ after.entries, kept.1 ≠ key)
    (tables : after.cache.tables = before.cache.tables.forgetKey key)
    (answers : after.answers = before.answers) : Keeps before after := by
  refine ⟨entries, ?_, answers⟩
  intro kept member name indexed
  unfold keysFor
  rw [tables]
  exact KeyIndex.mem_keysFor_forgetKey indexed (gone kept member)

theorem Keeps.of_taken {names : List String} {given : List String}
    (handed : ∀ name key, key ∈ before.keysFor name → key ∈ given ∨
      (key ∈ middle.keysFor name ∧ ∀ listed ∈ names, Text.lower name ≠ Text.lower listed))
    (keeps : Keeps middle after) (gone : ∀ kept ∈ after.entries, kept.1 ∉ given)
    (entries : middle.entries = before.entries) (answers : middle.answers = before.answers) :
    Keeps before after ∧
      ∀ kept ∈ after.entries, ∀ name, ∀ listed ∈ names,
        Text.lower name = Text.lower listed → kept.1 ∉ before.keysFor name := by
  have stayed : ∀ kept ∈ after.entries, ∀ name, kept.1 ∈ before.keysFor name →
      kept.1 ∈ middle.keysFor name ∧ ∀ listed ∈ names, Text.lower name ≠ Text.lower listed :=
    fun kept member name indexed => (handed name kept.1 indexed).resolve_left (gone kept member)
  refine ⟨⟨?_, ?_, keeps.answers.trans answers⟩, ?_⟩
  · rw [← entries]
    exact keeps.entries
  · intro kept member name indexed
    exact keeps.indexed kept member name (stayed kept member name indexed).1
  · intro kept member name listed own same indexed
    exact (stayed kept member name indexed).2 listed own same

end Session

end BoundQuery
