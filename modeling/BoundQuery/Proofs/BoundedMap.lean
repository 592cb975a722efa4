import BoundQuery.Proofs.Chronicle
import BoundQuery.Proofs.Eviction

/-!
The store in memory as a map of bounded size whose values have lifetimes. What it answers follows
from the calls that were made: a key has the value that was set last, until it is deleted, cleared
away or evicted or its time is over. A live value is evicted only for a key that has none, when
there is no room, and then it is one of the oldest.
-/

set_option autoImplicit false

namespace BoundQuery

inductive StoreCall where
  | get (key : String)
  | set (key : String) (value : Json) (ttl : Option Nat)
  | delete (key : String)
  | holds (key : String)
  | keys (pattern : Option KeyPattern)
  | clear
  | evictExpired

structure TimedCall where
  time : Nat
  call : StoreCall

namespace MemoryCache

def after (cache : MemoryCache) (made : TimedCall) : MemoryCache :=
  match made.call with
  | .get key => (cache.get made.time key).2
  | .set key value ttl => cache.set made.time key value ttl
  | .delete key => (cache.delete key).2
  | .holds _ => cache
  | .keys _ => cache
  | .clear => cache.clear
  | .evictExpired => (cache.evictExpired made.time).2

/-- The store after a history, which has the latest call first. -/
def reached (start : MemoryCache) : List TimedCall → MemoryCache
  | [] => start
  | made :: earlier => (reached start earlier).after made

/-- The call puts another value in the place of a key's, or takes it away. -/
def Ends (cache : MemoryCache) (key : String) (made : TimedCall) : Prop :=
  match made.call with
  | .set own value ttl => own = key ∨ key ∈ cache.evicted made.time own value ttl
  | .delete own => own = key
  | .clear => True
  | _ => False

/-- The last set of the key stored the value at the time, and nothing has removed it since. -/
def Stands (start : MemoryCache) (key : String) (value : Json) (time : Nat) (ttl : Option Nat) :
    List TimedCall → Prop
  | [] => False
  | made :: earlier =>
      made = ⟨time, .set key value ttl⟩ ∨
        (Stands start key value time ttl earlier ∧ ¬(start.reached earlier).Ends key made)

/-- What stands is in force as long as its own lifetime, or else that of the store, is not over. -/
def InForce (start : MemoryCache) (history : List TimedCall) (now : Nat) (key : String)
    (value : Json) (time : Nat) : Prop :=
  ∃ ttl, start.Stands key value time ttl history ∧
    ∀ lifetime, (ttl <|> start.defaultTtl) = some lifetime → now < time + lifetime

variable {cache : MemoryCache}

theorem after_settings (cache : MemoryCache) (made : TimedCall) :
    (cache.after made).capacity = cache.capacity ∧
      (cache.after made).defaultTtl = cache.defaultTtl := by
  obtain ⟨time, call⟩ := made
  cases call with
  | get key =>
      unfold after get
      dsimp only
      split
      · exact ⟨rfl, rfl⟩
      · split
        · exact ⟨rfl, rfl⟩
        · exact ⟨rfl, rfl⟩
  | set key value ttl => exact cache.set_settings time key value ttl
  | _ => exact ⟨rfl, rfl⟩

namespace Distinct

theorem after (distinct : cache.Distinct) (made : TimedCall) : (cache.after made).Distinct := by
  obtain ⟨time, call⟩ := made
  cases call with
  | get key => exact distinct.get time key
  | set key value ttl => exact distinct.set time key value ttl
  | delete key => exact distinct.remove key
  | holds key => exact distinct
  | keys pattern => exact distinct
  | clear => exact List.nodup_nil
  | evictExpired => exact distinct.dropExpired time

theorem size_after (distinct : cache.Distinct) (bounded : cache.size ≤ max cache.capacity 1)
    (made : TimedCall) : (cache.after made).size ≤ max cache.capacity 1 := by
  have filtered (test : String × MemoryEntry → Bool) :
      size { cache with entries := cache.entries.filter test } ≤ max cache.capacity 1 :=
    Nat.le_trans (size_filter_le test) bounded
  obtain ⟨time, call⟩ := made
  cases call with
  | get key =>
      unfold MemoryCache.after MemoryCache.get
      dsimp only
      split
      · exact bounded
      · split
        · exact bounded
        · exact filtered _
  | set key value ttl => exact distinct.size_set bounded
  | delete key => exact filtered _
  | holds key => exact bounded
  | keys pattern => exact bounded
  | clear => exact Nat.zero_le _
  | evictExpired => exact filtered _

theorem mem_after (distinct : cache.Distinct) (made : TimedCall) {key : String}
    {entry : MemoryEntry}
    (live : entry.isLive made.time = true) :
    (key, entry) ∈ (cache.after made).entries ↔
      (∃ value ttl, made.call = .set key value ttl ∧
        entry = placed cache.defaultTtl value made.time ttl) ∨
      ((key, entry) ∈ cache.entries ∧ ¬cache.Ends key made) := by
  obtain ⟨time, call⟩ := made
  cases call with
  | get own =>
      have kept : (key, entry) ∈ (cache.get time own).2.entries ↔ (key, entry) ∈ cache.entries :=
        ⟨mem_of_get, fun stored => distinct.mem_get own stored live⟩
      simpa [MemoryCache.after, Ends] using kept
  | set own value ttl =>
      change (key, entry) ∈ (cache.set time own value ttl).entries ↔ _
      rw [mem_set]
      constructor
      · rintro (⟨stays, differs⟩ | new)
        · right
          refine ⟨mem_of_roomFor stays, ?_⟩
          rintro (same | gone)
          · exact differs same.symm
          · obtain ⟨_, other, stored, _, absent⟩ := distinct.mem_evicted.mp gone
            rw [distinct.entry_unique stored (mem_of_roomFor stays)] at absent
            exact absent stays
        · left
          obtain ⟨rfl, rfl⟩ := Prod.mk.inj new
          exact ⟨value, ttl, rfl, rfl⟩
      · rintro (⟨given, lifetime, call, rfl⟩ | ⟨stored, stays⟩)
        · right
          cases call
          rfl
        · left
          have differs : key ≠ own := fun same => stays (.inl same.symm)
          refine ⟨?_, differs⟩
          by_contra gone
          exact stays (.inr (distinct.mem_evicted.mpr ⟨differs, entry, stored, live, gone⟩))
  | delete own =>
      have kept : (key, entry) ∈ (cache.remove own).entries ↔
          (key, entry) ∈ cache.entries ∧ ¬own = key := by
        rw [mem_remove]
        exact and_congr_right fun _ => ne_comm
      simpa [MemoryCache.after, MemoryCache.delete, Ends] using kept
  | holds own => simp [MemoryCache.after, Ends]
  | keys pattern => simp [MemoryCache.after, Ends]
  | clear => simp [MemoryCache.after, MemoryCache.clear, Ends]
  | evictExpired =>
      have kept : (key, entry) ∈ (cache.dropExpired time).entries ↔ (key, entry) ∈ cache.entries :=
        ⟨mem_of_dropExpired, fun stored => mem_dropExpired stored live⟩
      simpa [MemoryCache.after, MemoryCache.evictExpired, Ends] using kept

end Distinct

variable {start : MemoryCache} (empty : start.entries = [])
include empty

theorem reached_wellKept (history : List TimedCall) :
    (start.reached history).Distinct ∧
      (start.reached history).size ≤ max start.capacity 1 ∧
      (start.reached history).capacity = start.capacity ∧
      (start.reached history).defaultTtl = start.defaultTtl := by
  induction history with
  | nil =>
      refine ⟨?_, ?_, rfl, rfl⟩
      · unfold Distinct
        rw [reached, empty]
        exact List.nodup_nil
      · unfold size
        rw [reached, empty]
        exact Nat.zero_le _
  | cons made earlier ih =>
      obtain ⟨distinct, bounded, capacity, defaultTtl⟩ := ih
      obtain ⟨sameCapacity, sameTtl⟩ := (start.reached earlier).after_settings made
      rw [← capacity] at bounded
      have further := distinct.size_after bounded made
      rw [capacity] at further
      exact ⟨distinct.after made, further, sameCapacity.trans capacity, sameTtl.trans defaultTtl⟩

/-- The live entries are those of the values that stand. -/
theorem mem_reached {history : List TimedCall} {now : Nat} {key : String} {entry : MemoryEntry}
    (live : entry.isLive now = true) (onward : ∀ made ∈ history, made.time ≤ now) :
    (key, entry) ∈ (start.reached history).entries ↔
      ∃ value time ttl, entry = placed start.defaultTtl value time ttl ∧
        start.Stands key value time ttl history := by
  induction history with
  | nil =>
      rw [reached, empty]
      simp [Stands]
  | cons made earlier ih =>
      obtain ⟨distinct, _, _, defaultTtl⟩ := reached_wellKept empty earlier
      have known := ih fun other member => onward other (List.mem_cons_of_mem made member)
      have lived := MemoryEntry.live_before live (onward made List.mem_cons_self)
      rw [reached, distinct.mem_after made lived, defaultTtl, known]
      constructor
      · rintro (⟨value, ttl, call, same⟩ | ⟨⟨value, time, ttl, same, stands⟩, stays⟩)
        · obtain ⟨time, given⟩ := made
          cases call
          exact ⟨value, time, ttl, same, .inl rfl⟩
        · exact ⟨value, time, ttl, same, .inr ⟨stands, stays⟩⟩
      · rintro ⟨value, time, ttl, same, rfl | ⟨stands, stays⟩⟩
        · exact .inl ⟨value, ttl, rfl, same⟩
        · exact .inr ⟨⟨value, time, ttl, same, stands⟩, stays⟩

theorem inForce_iff {history : List TimedCall} {now : Nat}
    (onward : ∀ made ∈ history, made.time ≤ now) {key : String} {value : Json} {time : Nat} :
    start.InForce history now key value time ↔
      ∃ entry, (key, entry) ∈ (start.reached history).entries ∧ entry.isLive now = true ∧
        entry.value = value ∧ entry.created = time := by
  constructor
  · rintro ⟨ttl, stands, early⟩
    have live : (placed start.defaultTtl value time ttl).isLive now = true :=
      placed_isLive_iff.mpr early
    exact ⟨_, (mem_reached empty live onward).mpr ⟨value, time, ttl, rfl, stands⟩, live, rfl, rfl⟩
  · rintro ⟨entry, member, live, rfl, rfl⟩
    obtain ⟨value, time, ttl, rfl, stands⟩ := (mem_reached empty live onward).mp member
    exact ⟨ttl, stands, placed_isLive_iff.mp live⟩

end MemoryCache

theorem MemoryCache.size_reached_build (maxCapacity defaultTtl : Option Nat)
    (history : List TimedCall) :
    let start := build maxCapacity defaultTtl
    (start.reached history).size ≤ start.capacity := by
  intro start
  have room : 1 ≤ start.capacity := by
    cases maxCapacity with
    | none => exact (by decide : 1 ≤ 10000)
    | some capacity => exact Nat.le_max_left 1 capacity
  have unstored : start.entries = [] := rfl
  obtain ⟨_, bounded, _⟩ := reached_wellKept unstored history
  rwa [Nat.max_eq_left room] at bounded

open MemoryCache in
/-- After any calls, none of them made later than now: no more is stored than there is room for, and
room for one value there always is. What is looked up, held and listed is just what is in force. And
a set evicts only where its key has nothing in force and the other keys fill the store; then it
evicts one key, whose value was set no later than any other in force. -/
theorem memory_store_is_bounded_map (capacity : Nat) (defaultTtl : Option Nat)
    (history : List TimedCall) (now : Nat) (onward : ∀ made ∈ history, made.time ≤ now) :
    let start : MemoryCache := { capacity := capacity, defaultTtl := defaultTtl }
    let store := start.reached history
    store.size ≤ max capacity 1 ∧
    (∀ key value, (store.get now key).1 = some value ↔
      ∃ time, start.InForce history now key value time) ∧
    (∀ key, store.holds now key = true ↔ ∃ value time, start.InForce history now key value time) ∧
    (∀ pattern, (store.keys now pattern).Pairwise (· < ·) ∧
      ∀ key, key ∈ store.keys now pattern ↔
        (∃ value time, start.InForce history now key value time) ∧
          pattern.all (fun given => given.accepts key) = true) ∧
    ∀ key value ttl,
      (store.evicted now key value ttl ≠ [] ↔ store.holds now key = false ∧
        max capacity 1 ≤ ((store.keys now none).filter (· != key)).length) ∧
      (store.evicted now key value ttl ≠ [] →
        ∃ old held time, store.evicted now key value ttl = [old] ∧
          start.InForce history now old held time ∧
          ∀ other kept later, start.InForce history now other kept later → time ≤ later) := by
  intro start store
  have unstored : start.entries = [] := rfl
  obtain ⟨distinct, bounded, sameCapacity, _⟩ := reached_wellKept unstored history
  have inForce {key : String} {value : Json} {time : Nat} :
      start.InForce history now key value time ↔ _ := inForce_iff unstored onward
  have lives (key : String) :
      (∃ entry, (key, entry) ∈ store.entries ∧ entry.isLive now = true) ↔
        ∃ value time, start.InForce history now key value time := by
    constructor
    · rintro ⟨entry, stored, live⟩
      exact ⟨entry.value, entry.created, inForce.mpr ⟨entry, stored, live, rfl, rfl⟩⟩
    · rintro ⟨value, time, stands⟩
      obtain ⟨entry, stored, live, _, _⟩ := inForce.mp stands
      exact ⟨entry, stored, live⟩
  refine ⟨bounded, ?_, fun key => distinct.holds_iff.trans (lives key), ?_, ?_⟩
  · intro key value
    rw [distinct.get_eq_some_iff]
    constructor
    · rintro ⟨entry, stored, held, live⟩
      exact ⟨entry.created, inForce.mpr ⟨entry, stored, live, held, rfl⟩⟩
    · rintro ⟨time, stands⟩
      obtain ⟨entry, stored, live, held, _⟩ := inForce.mp stands
      exact ⟨entry, stored, held, live⟩
  · intro pattern
    refine ⟨keys_sorted now pattern, ?_⟩
    intro key
    rw [mem_keys, lives key]
  · intro key value ttl
    have full : store.size ≤ max store.capacity 1 := by
      rw [sameCapacity]
      exact bounded
    have outcomes := distinct.evicted_cases full now key value ttl
    rw [sameCapacity] at outcomes
    rcases outcomes with ⟨none, room⟩ | ⟨unheld, crowded, old, stored, one, live, least⟩
    · refine ⟨⟨fun some => absurd none some, ?_⟩, fun some => absurd none some⟩
      rintro ⟨_, crowded⟩
      exact absurd crowded (Nat.not_le_of_lt room)
    · have some : store.evicted now key value ttl ≠ [] := by
        rw [one]
        exact List.cons_ne_nil old.1 []
      refine ⟨⟨fun _ => ⟨unheld, crowded⟩, fun _ => some⟩, fun _ => ?_⟩
      refine ⟨old.1, old.2.value, old.2.created, one,
        inForce.mpr ⟨old.2, stored, live, rfl, rfl⟩, ?_⟩
      intro other kept later stands
      obtain ⟨rival, there, alive, _, rfl⟩ := inForce.mp stands
      exact least (other, rival) there alive

/-- Two places; the first value is set anew, the second has ended when a third one comes. -/
def crowdingCalls : List TimedCall :=
  [⟨6, .set "c" (.bool true) none⟩, ⟨4, .get "b"⟩, ⟨3, .set "a" (.bool true) none⟩,
    ⟨2, .set "b" .null (some 3)⟩, ⟨1, .set "a" .null none⟩]

theorem crowded_store_is_bounded_map :
    (∀ made ∈ crowdingCalls, made.time ≤ 6) ∧
      let start : MemoryCache := { capacity := 2 }
      (∃ time, start.InForce crowdingCalls 6 "a" (.bool true) time) ∧
        (∀ value time, ¬start.InForce crowdingCalls 6 "b" value time) ∧
        ∃ old, (start.reached crowdingCalls).evicted 6 "d" .null none = [old] := by
  have onward : ∀ made ∈ crowdingCalls, made.time ≤ 6 := by
    unfold crowdingCalls
    decide
  obtain ⟨_, found, held, _, evicts⟩ :=
    memory_store_is_bounded_map 2 none crowdingCalls 6 onward
  refine ⟨onward, (found "a" (.bool true)).mp rfl, ?_, ?_⟩
  · intro value time stands
    have unheld :
        (({ capacity := 2 } : MemoryCache).reached crowdingCalls).holds 6 "b" = false := rfl
    rw [(held "b").mpr ⟨value, time, stands⟩] at unheld
    cases unheld
  · obtain ⟨some, one⟩ := evicts "d" .null none
    obtain ⟨old, _, _, evicted, _⟩ := one (some.mpr (by decide +kernel))
    exact ⟨old, evicted⟩

end BoundQuery
