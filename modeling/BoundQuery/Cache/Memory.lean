import BoundQuery.Cache.Adapter
import BoundQuery.Cache.Index

/-!
A bounded store in memory. An entry is gone from the instant at which its lifetime ends; when the
store is full, ended entries make room first, then the oldest.
-/

set_option autoImplicit false

namespace BoundQuery

/-- Instants are in milliseconds. -/
structure MemoryEntry where
  value : Json
  created : Nat
  expires : Option Nat

def MemoryEntry.isLive (entry : MemoryEntry) (now : Nat) : Bool :=
  match entry.expires with
  | none => true
  | some instant => now < instant

structure MemoryCache where
  capacity : Nat := 10000
  defaultTtl : Option Nat := none
  entries : List (String × MemoryEntry) := []

namespace MemoryCache

/-- An empty store as it is set up step by step; a capacity that is asked for there has room for one
entry at least. -/
def build (maxCapacity defaultTtl : Option Nat) : MemoryCache :=
  { capacity := (maxCapacity.map (max 1)).getD 10000, defaultTtl := defaultTtl }

def size (cache : MemoryCache) : Nat :=
  cache.entries.length

def find? (cache : MemoryCache) (key : String) : Option MemoryEntry :=
  cache.entries.lookup key

def live? (cache : MemoryCache) (now : Nat) (key : String) : Option MemoryEntry :=
  (cache.find? key).filter (fun entry => entry.isLive now)

def remove (cache : MemoryCache) (key : String) : MemoryCache :=
  { cache with entries := cache.entries.filter (fun entry => entry.1 != key) }

def dropExpired (cache : MemoryCache) (now : Nat) : MemoryCache :=
  { cache with entries := cache.entries.filter (fun entry => entry.2.isLive now) }

/-- The key of an entry created no later than any other. -/
def oldest? : List (String × MemoryEntry) → Option (String × Nat)
  | [] => none
  | (key, entry) :: rest =>
      match oldest? rest with
      | none => some (key, entry.created)
      | some (other, created) =>
          if created < entry.created then some (other, created) else some (key, entry.created)

/-- Removes the oldest entries until there is room for one more; the first argument bounds the
number of removals. -/
def dropOldest : Nat → MemoryCache → MemoryCache
  | 0, cache => cache
  | steps + 1, cache =>
      if cache.size < cache.capacity then cache
      else
        match oldest? cache.entries with
        | none => cache
        | some (key, _) => dropOldest steps (cache.remove key)

def makeRoom (cache : MemoryCache) (now : Nat) : MemoryCache :=
  let cleaned := cache.dropExpired now
  dropOldest cleaned.size cleaned

/-- An entry that has ended is removed when it is asked for. -/
def get (cache : MemoryCache) (now : Nat) (key : String) : Option Json × MemoryCache :=
  match cache.find? key with
  | none => (none, cache)
  | some entry => if entry.isLive now then (some entry.value, cache) else (none, cache.remove key)

/-- Room is needed only for a key that is not stored yet. Clocks have no last instant here, so the
end of a lifetime can always be computed. -/
def set (cache : MemoryCache) (now : Nat) (key : String) (value : Json) (ttl : Option Nat) :
    MemoryCache :=
  let lifetime := ttl <|> cache.defaultTtl
  let roomy :=
    if (cache.find? key).isNone && cache.capacity ≤ cache.size then cache.makeRoom now else cache
  let others := roomy.remove key
  { others with entries := others.entries ++ [(key, ⟨value, now, lifetime.map (now + ·)⟩)] }

def delete (cache : MemoryCache) (key : String) : Bool × MemoryCache :=
  ((cache.find? key).isSome, cache.remove key)

def holds (cache : MemoryCache) (now : Nat) (key : String) : Bool :=
  (cache.live? now key).isSome

def keys (cache : MemoryCache) (now : Nat) (pattern : Option KeyPattern) : List String :=
  insertKeys []
    (((cache.entries.filter (fun entry => entry.2.isLive now)).map Prod.fst).filter
      (fun key => pattern.all (fun given => given.accepts key)))

def clear (cache : MemoryCache) : MemoryCache :=
  { cache with entries := [] }

/-- The number of removed entries, and the store without them. -/
def evictExpired (cache : MemoryCache) (now : Nat) : Nat × MemoryCache :=
  let cleaned := cache.dropExpired now
  (cache.size - cleaned.size, cleaned)

def adapter {World : Type} (now : World → Nat) (store : World → MemoryCache)
    (replace : MemoryCache → World → World) : CacheAdapter World :=
  { get := fun key world =>
      let result := (store world).get (now world) key
      (.ok result.1, replace result.2 world)
    set := fun key value ttl world =>
      (.ok (), replace ((store world).set (now world) key value ttl) world)
    delete := fun key world =>
      let result := (store world).delete key
      (.ok result.1, replace result.2 world)
    keys := fun pattern world => (.ok ((store world).keys (now world) pattern), world)
    clear := fun world => (.ok (), replace (store world).clear world)
    holds := fun key world => (.ok ((store world).holds (now world) key), world)
    scansPatterns := true
    name := "memory" }

end MemoryCache

end BoundQuery
