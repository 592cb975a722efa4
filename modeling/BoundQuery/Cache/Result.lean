import BoundQuery.Cache.Adapter
import BoundQuery.Cache.Index
import BoundQuery.Cache.Key
import BoundQuery.Cache.Options
import BoundQuery.Cache.Stats
import BoundQuery.Cache.Tables
import BoundQuery.Engine.Executor
import BoundQuery.Settings.Config
import BoundQuery.Statement.Compile

/-!
Results read through a cache. Results are kept by an adapter; which of them depend on a table or a
tag is known here, so that they can be dropped together. A failing adapter never fails a query: a
failed look-up is a miss and a failed store is skipped.
-/

set_option autoImplicit false

namespace BoundQuery

structure CacheState where
  tables : KeyIndex := {}
  tags : KeyIndex := {}
  stats : CacheStats := {}

def CacheState.forget (state : CacheState) (key : String) : CacheState :=
  { state with tables := state.tables.forgetKey key, tags := state.tags.forgetKey key }

structure Session (World : Type) where
  world : World
  cache : CacheState := {}

namespace Session

variable {World : Type}

def inWorld {α : Type} (effect : StateM World α) : StateM (Session World) α := fun session =>
  let result := effect session.world
  (result.1, { session with world := result.2 })

def onCache (change : CacheState → CacheState) : StateM (Session World) Unit :=
  modify (fun session => { session with cache := change session.cache })

def onStats (change : CacheStats → CacheStats) : StateM (Session World) Unit :=
  onCache (fun state => { state with stats := change state.stats })

def forget (key : String) : StateM (Session World) Unit :=
  onCache (fun state => state.forget key)

end Session

/-- Something done in a session that may fail; what was done before a failure stays done. -/
abbrev Action (World α : Type) := ExceptT QueryError (StateM (Session World)) α

structure Invalidation where
  tables : List String := []
  tags : List String := []

def Invalidation.isEmpty (target : Invalidation) : Bool :=
  target.tables.isEmpty && target.tags.isEmpty

def Invalidation.names (target : Invalidation) : List String :=
  target.tables ++ target.tags

/-- Takes the names out of an index; the keys that stood under them. -/
def KeyIndex.takeAll (index : KeyIndex) : List String → List String × KeyIndex
  | [] => ([], index)
  | name :: rest =>
      let taken := index.take name
      let others := taken.2.takeAll rest
      (taken.1 ++ others.1, others.2)

def CacheState.takeNames (state : CacheState) (target : Invalidation) : List String × CacheState :=
  let byTable := state.tables.takeAll target.tables
  let byTag := state.tags.takeAll target.tags
  (byTable.1 ++ byTag.1, { state with tables := byTable.2, tags := byTag.2 })

def Session.takeNames {World : Type} (target : Invalidation) :
    StateM (Session World) (List String) := fun session =>
  let taken := session.cache.takeNames target
  (taken.1, { session with cache := taken.2 })

structure ResultCache (World : Type) where
  adapter : CacheAdapter World
  config : CacheConfig := {}

/-- Whether a statement starts like one that only reads. -/
def isReadStatement (sql : String) : Bool :=
  let head := Text.trimStartChars sql.toList
  Text.startsIgnoringCase "select".toList head || Text.startsIgnoringCase "with".toList head

/-- Whether a key names something between its start and the first `query` segment. -/
def namesSegment (key start name : String) : Bool :=
  match Text.after? start.toList key.toList with
  | none => false
  | some rest =>
      ((rest.splitOn ':').takeWhile (fun segment => segment != "query".toList)).any
        (fun segment => Text.equalsIgnoringCase segment name.toList)

namespace ResultCache

variable {World : Type}

open Session

def generateKey (cache : ResultCache World) (sql : String) (bindings : List Value) : String :=
  BoundQuery.generateKey cache.config.keyStart sql bindings cache.config.hashLength

/-- A key of its own for one statement under a key that the caller gave. -/
def scopedKey (cache : ResultCache World) (key : String) (statement : Statement) : String :=
  BoundQuery.generateKey (key ++ ":") statement.sql statement.bindings cache.config.hashLength

def lookup (cache : ResultCache World) (key : String) :
    StateM (Session World) (Option Json) := do
  match ← inWorld (cache.adapter.get key) with
  | .ok found => pure found
  | .error _ => pure none

def set (cache : ResultCache World) (key : String) (value : Json) (ttl : Option Nat) :
    StateM (Session World) Bool := do
  match ← inWorld (cache.adapter.set key value (some (ttl.getD cache.config.defaultTtl))) with
  | .ok _ => do
      onStats CacheStats.countSet
      pure true
  | .error _ => pure false

/-- The stored value, counted as a hit or a miss. A key under which nothing is stored is forgotten;
a value that is there but cannot be decoded is a miss. -/
def get {α : Type} (cache : ResultCache World) (decode? : Json → Option α) (key : String) :
    StateM (Session World) (Option α) := do
  match ← cache.lookup key with
  | none => do
      forget key
      onStats CacheStats.countMiss
      pure none
  | some value =>
      match decode? value with
      | some decoded => do
          onStats CacheStats.countHit
          pure (some decoded)
      | none => do
          onStats CacheStats.countMiss
          pure none

def delete (cache : ResultCache World) (key : String) : StateM (Session World) Bool := do
  forget key
  match ← inWorld (cache.adapter.delete key) with
  | .ok true => do
      onStats (fun stats => stats.countDeletes 1)
      pure true
  | _ => pure false

def holds (cache : ResultCache World) (key : String) : StateM (Session World) Bool := do
  match ← inWorld (cache.adapter.holds key) with
  | .ok found => pure found
  | .error _ => pure false

/-- The stored keys that carry one of the names; a failed scan finds none. -/
def sweep (cache : ResultCache World) : List String → StateM (Session World) (List String)
  | [] => pure []
  | name :: rest => do
      let pattern := KeyPattern.mentioning cache.config.keyStart (Text.lower name)
      let found ←
        match ← inWorld (cache.adapter.keys (some pattern)) with
        | .ok keys =>
            pure (keys.filter (fun key => namesSegment key cache.config.keyStart name))
        | .error _ => pure []
      let others ← cache.sweep rest
      pure (found ++ others)

/-- Forgets and deletes keys; the number of deletions that the adapter confirmed. -/
def dropKeys (cache : ResultCache World) : List String → StateM (Session World) Nat
  | [] => pure 0
  | key :: rest => do
      forget key
      let dropped ←
        match ← inWorld (cache.adapter.delete key) with
        | .ok true => pure 1
        | _ => pure 0
      let others ← cache.dropKeys rest
      pure (dropped + others)

def invalidate (cache : ResultCache World) (target : Invalidation) :
    StateM (Session World) Nat := do
  onStats CacheStats.countInvalidation
  let indexed ← takeNames target
  let swept ←
    if cache.config.patternInvalidation && cache.adapter.scansPatterns then
      cache.sweep target.names
    else pure []
  let dropped ← cache.dropKeys (insertKeys [] (indexed ++ swept))
  onStats (fun stats => stats.countDeletes dropped)
  pure dropped

def clear (cache : ResultCache World) : StateM (Session World) (Except CacheError Unit) := do
  onCache (fun state => { state with tables := {}, tags := {} })
  inWorld cache.adapter.clear

def resetStats : StateM (Session World) Unit :=
  onStats (fun _ => {})

def keyFor (cache : ResultCache World) (statement : Statement) (directive : CacheDirective) :
    String :=
  directive.key.getD (cache.generateKey statement.sql statement.bindings)

/-- Records that a key depends on the tables of a statement and on tags. -/
def indexUnder (tables tags : List String) (key : String) (state : CacheState) : CacheState :=
  { state with
    tables := tables.foldl (fun index name => index.insert name key) state.tables
    tags := tags.foldl (fun index name => index.insert name key) state.tags }

/-- Writes and empty results are kept only if the settings say so. -/
def isCacheable (cache : ResultCache World) (statement : Statement) (output : QueryOutput) :
    Bool :=
  (!cache.config.selectOnly || isReadStatement statement.sql) &&
    (!output.rows.isEmpty || cache.config.cacheEmptyResults)

/-- Whether the result was stored. -/
def storeOutput (cache : ResultCache World) (statement : Statement) (directive : CacheDirective)
    (output : QueryOutput) : StateM (Session World) Bool := do
  if !cache.isCacheable statement output then pure false
  else
    let key := cache.keyFor statement directive
    if ← cache.set key output.toJson directive.ttl then
      onCache (indexUnder (referencedTables statement.sql) directive.tags key)
      pure true
    else pure false

/-- The stored result, or else the fetched one, which is stored if it may be. -/
def readThrough (cache : ResultCache World) (statement : Statement) (directive : CacheDirective)
    (fetch : Action World QueryOutput) : Action World QueryOutput := do
  match ← cache.get QueryOutput.ofJson? (cache.keyFor statement directive) with
  | some output => pure output
  | none => do
      let output ← fetch
      let _ ← cache.storeOutput statement directive output
      pure output

end ResultCache

end BoundQuery
