import BoundQuery.Proofs.DistinctKeys
import Mathlib.Data.Finset.Card

/-!
A store with room for every key it will ever be given. Then nothing has to make way for anything
else, and what leaves the store has ended or was removed by its key.
-/

set_option autoImplicit false

namespace BoundQuery

namespace MemoryCache

/-- Each key is stored once, and there is room for all the keys that may come. -/
structure Roomy (keys : Finset String) (cache : MemoryCache) : Prop where
  distinct : (cache.entries.map Prod.fst).Nodup
  known : ∀ kept ∈ cache.entries, kept.1 ∈ keys
  room : keys.card ≤ cache.capacity

namespace Roomy

variable {keys : Finset String} {cache : MemoryCache}

theorem empty {capacity : Nat} (defaultTtl : Option Nat) (room : keys.card ≤ capacity) :
    Roomy keys { capacity := capacity, defaultTtl := defaultTtl } := by
  refine ⟨List.nodup_nil, ?_, room⟩
  intro kept member
  cases member

theorem filter (roomy : Roomy keys cache) (test : String × MemoryEntry → Bool) :
    Roomy keys { cache with entries := cache.entries.filter test } := by
  refine ⟨Distinct.filter roomy.distinct test, ?_, roomy.room⟩
  intro kept member
  exact roomy.known kept (List.mem_filter.mp member).1

theorem size_lt (roomy : Roomy keys cache) {key : String} (given : key ∈ keys)
    (missing : cache.find? key = none) : cache.size < cache.capacity := by
  have fresh : key ∉ (cache.entries.map Prod.fst).toFinset := by
    intro member
    obtain ⟨kept, stored, same⟩ := List.mem_map.mp (List.mem_toFinset.mp member)
    exact find?_eq_none missing stored same
  have within : insert key (cache.entries.map Prod.fst).toFinset ⊆ keys := by
    intro other member
    rcases Finset.mem_insert.mp member with here | there
    · rw [here]
      exact given
    · obtain ⟨kept, stored, same⟩ := List.mem_map.mp (List.mem_toFinset.mp there)
      rw [← same]
      exact roomy.known kept stored
  have counted := Finset.card_le_card within
  rw [Finset.card_insert_of_notMem fresh, List.toFinset_card_of_nodup roomy.distinct,
    List.length_map] at counted
  have room := roomy.room
  unfold size
  omega

theorem set_eq (roomy : Roomy keys cache) {key : String} (given : key ∈ keys) (now : Nat)
    (value : Json) (ttl : Option Nat) :
    cache.set now key value ttl = { cache with
      entries := (cache.remove key).entries ++
        [(key, ⟨value, now, (ttl <|> cache.defaultTtl).map (now + ·)⟩)] } := by
  have unhurried : ((cache.find? key).isNone && decide (cache.capacity ≤ cache.size)) = false := by
    cases found : cache.find? key with
    | none =>
        have room := roomy.size_lt given found
        simp only [Option.isNone_none, Bool.true_and, decide_eq_false_iff_not]
        omega
    | some entry => rfl
  unfold MemoryCache.set
  simp only [unhurried]
  rfl

theorem remove (roomy : Roomy keys cache) (key : String) : Roomy keys (cache.remove key) :=
  roomy.filter _

theorem set (roomy : Roomy keys cache) {key : String} (given : key ∈ keys) (now : Nat)
    (value : Json) (ttl : Option Nat) : Roomy keys (cache.set now key value ttl) := by
  have others := roomy.remove key
  rw [roomy.set_eq given]
  refine ⟨Distinct.add roomy.distinct key _, ?_, roomy.room⟩
  intro kept member
  rcases List.mem_append.mp member with old | new
  · exact others.known kept old
  · rw [List.mem_singleton.mp new]
    exact given

theorem get (roomy : Roomy keys cache) (now : Nat) (key : String) :
    Roomy keys (cache.get now key).2 := by
  unfold MemoryCache.get
  split
  · exact roomy
  · split
    · exact roomy
    · exact roomy.remove key

theorem get_of_live (roomy : Roomy keys cache) {now : Nat} {key : String} {entry : MemoryEntry}
    (stored : (key, entry) ∈ cache.entries) (live : entry.isLive now = true) :
    cache.get now key = (some entry.value, cache) :=
  Distinct.get_of_live roomy.distinct stored live

theorem mem_get (roomy : Roomy keys cache) {now : Nat} (key : String)
    {kept : String × MemoryEntry} (stored : kept ∈ cache.entries)
    (live : kept.2.isLive now = true) : kept ∈ (cache.get now key).2.entries :=
  Distinct.mem_get roomy.distinct key stored live

end Roomy

theorem get_of_ended {cache : MemoryCache} {now : Nat} {key : String}
    (ended : ∀ entry, (key, entry) ∈ cache.entries → entry.isLive now = false) :
    (cache.get now key).1 = none := by
  unfold MemoryCache.get
  cases found : cache.find? key with
  | none => rfl
  | some entry =>
      simp only [ended entry (mem_of_find? found)]
      rfl

end MemoryCache

end BoundQuery
