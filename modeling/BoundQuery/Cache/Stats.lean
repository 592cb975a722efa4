import BoundQuery.Decimal.Format
import BoundQuery.Decimal.Reading

/-!
What the cache has done so far.
-/

set_option autoImplicit false

namespace BoundQuery

structure CacheStats where
  hits : Nat := 0
  misses : Nat := 0
  sets : Nat := 0
  deletes : Nat := 0
  invalidations : Nat := 0
deriving DecidableEq

namespace CacheStats

def countHit (stats : CacheStats) : CacheStats :=
  { stats with hits := stats.hits + 1 }

def countMiss (stats : CacheStats) : CacheStats :=
  { stats with misses := stats.misses + 1 }

def countSet (stats : CacheStats) : CacheStats :=
  { stats with sets := stats.sets + 1 }

def countDeletes (stats : CacheStats) (number : Nat) : CacheStats :=
  { stats with deletes := stats.deletes + number }

def countInvalidation (stats : CacheStats) : CacheStats :=
  { stats with invalidations := stats.invalidations + 1 }

/-- The share of hits among the look-ups, zero when there were none. -/
def hitRate (stats : CacheStats) : Float :=
  if stats.hits + stats.misses = 0 then 0.0
  else
    Decimal.nearest false stats.hits 0 / Decimal.nearest false (stats.hits + stats.misses) 0

def text (stats : CacheStats) : String :=
  "Cache Stats: " ++ toString stats.hits ++ " hits, " ++ toString stats.misses ++ " misses (" ++
    Decimal.fixedPlaces 1 (stats.hitRate * 100.0) ++ "% hit rate), " ++ toString stats.sets ++
    " sets, " ++ toString stats.deletes ++ " deletes, " ++ toString stats.invalidations ++
    " invalidations"

end CacheStats

end BoundQuery
