import BoundQuery.Proofs.Storage
import Mathlib.Data.List.Nodup

/-!
A store that holds each key once, as a store does whatever it has been asked for. An entry is then
what a look-up of its key finds, and to remove its key is to remove one entry.
-/

set_option autoImplicit false

namespace BoundQuery

theorem lookup_of_mem {Item : Type} {entries : List (String × Item)}
    (distinct : (entries.map Prod.fst).Nodup) {key : String} {item : Item}
    (stored : (key, item) ∈ entries) : entries.lookup key = some item := by
  obtain ⟨before, after, split⟩ := List.append_of_mem stored
  rw [split, List.map_append, List.map_cons, List.nodup_append] at distinct
  refine List.lookup_eq_some_iff.mpr ⟨before, after, split, ?_⟩
  intro earlier member
  have differs := distinct.2.2 earlier.1 (List.mem_map_of_mem member) key List.mem_cons_self
  simpa using Ne.symm differs

namespace MemoryCache

def Distinct (cache : MemoryCache) : Prop :=
  (cache.entries.map Prod.fst).Nodup

namespace Distinct

variable {cache : MemoryCache}

theorem empty (capacity : Nat) (defaultTtl : Option Nat) :
    Distinct { capacity := capacity, defaultTtl := defaultTtl } :=
  List.nodup_nil

theorem filter (distinct : cache.Distinct) (test : String × MemoryEntry → Bool) :
    Distinct { cache with entries := cache.entries.filter test } :=
  List.Nodup.sublist (List.filter_sublist.map Prod.fst) distinct

theorem remove (distinct : cache.Distinct) (key : String) : (cache.remove key).Distinct :=
  distinct.filter _

theorem dropExpired (distinct : cache.Distinct) (now : Nat) : (cache.dropExpired now).Distinct :=
  distinct.filter _

theorem dropOldest (steps : Nat) :
    ∀ {cache : MemoryCache}, cache.Distinct → (MemoryCache.dropOldest steps cache).Distinct := by
  induction steps with
  | zero => exact fun distinct => distinct
  | succ steps ih =>
      intro cache distinct
      unfold MemoryCache.dropOldest
      split
      · exact distinct
      · split
        · exact distinct
        · exact ih (distinct.remove _)

theorem makeRoom (distinct : cache.Distinct) (now : Nat) : (cache.makeRoom now).Distinct :=
  dropOldest _ (distinct.dropExpired now)

theorem add (distinct : cache.Distinct) (key : String) (entry : MemoryEntry) :
    Distinct { cache with entries := (cache.remove key).entries ++ [(key, entry)] } := by
  unfold Distinct
  rw [List.map_append, List.nodup_append]
  refine ⟨distinct.remove key, List.nodup_singleton _, ?_⟩
  intro other stored own single same
  obtain ⟨kept, member, here⟩ := List.mem_map.mp stored
  rw [List.mem_singleton.mp single] at same
  exact (mem_remove.mp member).2 (here.trans same)

theorem set (distinct : cache.Distinct) (now : Nat) (key : String) (value : Json)
    (ttl : Option Nat) : (cache.set now key value ttl).Distinct := by
  unfold MemoryCache.set
  split
  · exact (distinct.makeRoom now).add key _
  · exact distinct.add key _

theorem get (distinct : cache.Distinct) (now : Nat) (key : String) :
    (cache.get now key).2.Distinct := by
  unfold MemoryCache.get
  split
  · exact distinct
  · split
    · exact distinct
    · exact distinct.remove key

theorem find?_of_mem (distinct : cache.Distinct) {key : String} {entry : MemoryEntry}
    (stored : (key, entry) ∈ cache.entries) : cache.find? key = some entry :=
  lookup_of_mem distinct stored

theorem entry_unique (distinct : cache.Distinct) {key : String} {entry other : MemoryEntry}
    (stored : (key, entry) ∈ cache.entries) (too : (key, other) ∈ cache.entries) :
    entry = other :=
  Option.some.inj ((distinct.find?_of_mem stored).symm.trans (distinct.find?_of_mem too))

theorem get_of_live (distinct : cache.Distinct) {now : Nat} {key : String} {entry : MemoryEntry}
    (stored : (key, entry) ∈ cache.entries) (live : entry.isLive now = true) :
    cache.get now key = (some entry.value, cache) := by
  unfold MemoryCache.get
  rw [distinct.find?_of_mem stored]
  dsimp only
  rw [if_pos live]

theorem mem_get (distinct : cache.Distinct) {now : Nat} (key : String)
    {kept : String × MemoryEntry} (stored : kept ∈ cache.entries)
    (live : kept.2.isLive now = true) : kept ∈ (cache.get now key).2.entries := by
  obtain ⟨own, entry⟩ := kept
  by_cases same : own = key
  · rw [same] at stored ⊢
    rw [distinct.get_of_live stored live]
    exact stored
  · unfold MemoryCache.get
    split
    · exact stored
    · split
      · exact stored
      · exact mem_remove.mpr ⟨stored, same⟩

theorem get_eq_some_iff (distinct : cache.Distinct) {now : Nat} {key : String} {value : Json} :
    (cache.get now key).1 = some value ↔
      ∃ entry, (key, entry) ∈ cache.entries ∧ entry.value = value ∧ entry.isLive now = true := by
  constructor
  · intro found
    obtain ⟨entry, stored, held, live, _⟩ := get_found found
    exact ⟨entry, stored, held, live⟩
  · rintro ⟨entry, stored, held, live⟩
    rw [distinct.get_of_live stored live, held]

theorem holds_iff (distinct : cache.Distinct) {now : Nat} {key : String} :
    cache.holds now key = true ↔
      ∃ entry, (key, entry) ∈ cache.entries ∧ entry.isLive now = true := by
  unfold holds live?
  constructor
  · intro held
    obtain ⟨entry, found⟩ := Option.isSome_iff_exists.mp held
    obtain ⟨stored, live⟩ := Option.filter_eq_some_iff.mp found
    exact ⟨entry, mem_of_find? stored, live⟩
  · rintro ⟨entry, stored, live⟩
    rw [distinct.find?_of_mem stored, Option.filter_some, if_pos live]
    rfl

theorem size_remove (distinct : cache.Distinct) (key : String) :
    (cache.remove key).size + (if (cache.find? key).isSome then 1 else 0) = cache.size := by
  have entries : ∀ entries : List (String × MemoryEntry), (entries.map Prod.fst).Nodup →
      (entries.filter (fun entry => entry.1 != key)).length +
        (if (entries.lookup key).isSome then 1 else 0) = entries.length := by
    intro entries
    induction entries with
    | nil => exact fun _ => rfl
    | cons entry rest ih =>
        intro distinct
        obtain ⟨own, held⟩ := entry
        obtain ⟨absent, others⟩ := List.nodup_cons.mp distinct
        have counted := ih others
        by_cases same : own = key
        · subst same
          -- The key does not occur in the rest, from which nothing is removed.
          have missing : rest.lookup own = none := by
            refine List.lookup_eq_none_iff.mpr ?_
            intro kept member
            have differs : own ≠ kept.1 := by
              intro here
              rw [here] at absent
              exact absent (List.mem_map.mpr ⟨kept, member, rfl⟩)
            simpa using differs
          rw [missing] at counted
          rw [List.filter_cons_of_neg (by simp), List.lookup_cons_self, List.length_cons]
          simpa using counted
        · have elsewhere : (key == own) = false := beq_false_of_ne (Ne.symm same)
          rw [List.filter_cons_of_pos (by simpa using same), List.lookup_cons, elsewhere,
            List.length_cons, List.length_cons]
          dsimp only
          omega
  exact entries cache.entries distinct

end Distinct

end MemoryCache

end BoundQuery
