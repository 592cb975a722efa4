import BoundQuery.Dialect
import BoundQuery.Settings.Environment

/-!
The settings of an engine and of its cache.
-/

set_option autoImplicit false

namespace BoundQuery

/-- Lifetimes are in milliseconds. -/
structure CacheConfig where
  defaultTtl : Nat := 300000
  keyStart : String := "quarry:"
  hashLength : Nat := 32
  cacheEmptyResults : Bool := false
  selectOnly : Bool := true
  patternInvalidation : Bool := true
  invalidateOnWrite : Bool := true

def CacheConfig.read (environment : Environment) : Except QueryError CacheConfig := do
  let seconds ← environment.readPositive "QUARRY_CACHE_TTL_SECS" "greater than zero"
  let keyStart := environment "QUARRY_CACHE_PREFIX"
  let cacheEmpty ← environment.readFlag "QUARRY_CACHE_EMPTY"
  let selectOnly ← environment.readFlag "QUARRY_CACHE_SELECT_ONLY"
  let invalidateOnWrite ← environment.readFlag "QUARRY_CACHE_INVALIDATE_ON_WRITE"
  let default : CacheConfig := {}
  pure { default with
    defaultTtl := (seconds.map (1000 * ·)).getD default.defaultTtl
    keyStart := keyStart.getD default.keyStart
    cacheEmptyResults := cacheEmpty.getD default.cacheEmptyResults
    selectOnly := selectOnly.getD default.selectOnly
    invalidateOnWrite := invalidateOnWrite.getD default.invalidateOnWrite }

structure EngineConfig where
  dialect : Dialect := .postgresql
  defaultPerPage : Nat := 15
  aggregatesUseCache : Bool := false
  cache : CacheConfig := {}

namespace EngineConfig

def readDialect (environment : Environment) : Except QueryError (Option Dialect) :=
  environment.readWith "QUARRY_DIALECT" (fun text =>
    match Dialect.read text with
    | .ok dialect => .ok dialect
    | .error error => .error error.text)

def read (environment : Environment) : Except QueryError EngineConfig := do
  let cache ← CacheConfig.read environment
  let dialect ← readDialect environment
  let perPage ← environment.readPositive "QUARRY_DEFAULT_PER_PAGE" "at least 1"
  let aggregatesUseCache ← environment.readFlag "QUARRY_AGGREGATES_USE_CACHE"
  let default : EngineConfig := {}
  pure
    { dialect := dialect.getD default.dialect
      defaultPerPage := perPage.getD default.defaultPerPage
      aggregatesUseCache := aggregatesUseCache.getD default.aggregatesUseCache
      cache := cache }

def withDefaultPerPage (config : EngineConfig) (perPage : Nat) : EngineConfig :=
  { config with defaultPerPage := max 1 perPage }

end EngineConfig

end BoundQuery
