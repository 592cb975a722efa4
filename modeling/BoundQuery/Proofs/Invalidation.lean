import BoundQuery.Proofs.OrderlySession
import BoundQuery.Proofs.Segments
import BoundQuery.Proofs.Tagging

/-!
What an invalidation removes. Of the store that is what stands under one of its names, and what a
sweep finds by its key; of the two indices, the names and whatever belongs to a key that is removed.
-/

set_option autoImplicit false

namespace BoundQuery

theorem MemoryCache.foldl_remove_eq (keys : List String) :
    ∀ cache : MemoryCache, keys.foldl remove cache =
      { cache with entries := cache.entries.filter (fun entry => !keys.contains entry.1) } := by
  induction keys with
  | nil =>
      intro cache
      simp
  | cons key rest ih =>
      intro cache
      rw [List.foldl_cons, ih]
      simp only [remove, List.filter_filter, List.contains_cons, Bool.not_or, bne]
      congr 1
      refine List.filter_congr fun entry _ => ?_
      exact Bool.and_comm _ _

theorem CacheState.foldl_forget_eq (keys : List String) :
    ∀ state : CacheState, keys.foldl forget state =
      { state with
        tables := keys.foldl KeyIndex.forgetKey state.tables
        tags := keys.foldl KeyIndex.forgetKey state.tags } := by
  induction keys with
  | nil => exact fun _ => rfl
  | cons key rest ih => exact fun state => ih (state.forget key)

theorem KeyIndex.Distinct.mem_keysFor_left {index : KeyIndex} (distinct : index.Distinct)
    {names keys : List String} {name key : String} :
    key ∈ (keys.foldl KeyIndex.forgetKey (index.takeAll names).2).keysFor name ↔
      key ∈ index.keysFor name ∧ (∀ listed ∈ names, Text.lower name ≠ Text.lower listed) ∧
        key ∉ keys := by
  rw [(KeyIndex.Distinct.takeAll names distinct).mem_keysFor_foldl_forgetKey,
    KeyIndex.mem_keysFor_takeAll_iff, and_assoc]

variable {Outside : Type}

/-- The key stands under one of the tables or one of the tags. -/
def Session.DependsOn (session : Session (Site Outside)) (target : Invalidation) (key : String) :
    Prop :=
  (∃ table ∈ target.tables, key ∈ session.keysFor table) ∨
    ∃ tag ∈ target.tags, key ∈ session.tagKeysFor tag

namespace Setup

variable (setup : Setup Outside) (session : Session (Site Outside)) (target : Invalidation)

theorem mem_sweep {names : List String} {key : String} :
    key ∈ (setup.cache.sweep names session).1 ↔
      ∃ name ∈ names,
        key ∈ session.world.store.keys (setup.clock session.world.outside)
          (some (KeyPattern.mentioning setup.caching.keyStart (Text.lower name))) ∧
        CarriesName key setup.caching.keyStart name := by
  induction names with
  | nil =>
      constructor
      · intro none
        cases none
      · rintro ⟨name, none, _⟩
        cases none
  | cons name rest ih =>
      have found : (setup.cache.sweep (name :: rest) session).1 =
          (session.world.store.keys (setup.clock session.world.outside)
            (some (KeyPattern.mentioning setup.caching.keyStart (Text.lower name)))).filter
              (fun key => namesSegment key setup.caching.keyStart name) ++
            (setup.cache.sweep rest session).1 := rfl
      rw [found, List.mem_append, List.mem_filter, ih, List.exists_mem_cons_iff, namesSegment_iff]

theorem mem_reached {key : String} :
    key ∈ setup.reached target session ↔
      session.DependsOn target key ∨
        (setup.caching.patternInvalidation = true ∧
          key ∈ (setup.cache.sweep target.names session).1) := by
  have swept : key ∈ (setup.cache.sweep target.names (namesTaken session target)).1 ↔
      key ∈ (setup.cache.sweep target.names session).1 :=
    (mem_sweep setup (namesTaken session target)).trans (mem_sweep setup session).symm
  have named : key ∈ (session.cache.takeNames target).1 ↔ session.DependsOn target key := by
    refine List.mem_append.trans (or_congr ?_ ?_)
    · exact KeyIndex.mem_takeAll_iff target.tables
    · exact KeyIndex.mem_takeAll_iff target.tags
  unfold reached
  rw [mem_insertKeys, List.mem_append, named]
  by_cases scanning : setup.caching.patternInvalidation = true
  · simp [scanning, swept]
  · simp [scanning]

theorem stored_of_mem_sweep {key : String} {names : List String}
    (found : key ∈ (setup.cache.sweep names session).1) :
    ∃ entry, (key, entry) ∈ session.entries := by
  obtain ⟨name, _, listed, _⟩ := (mem_sweep setup session).mp found
  obtain ⟨⟨entry, stored, _⟩, _⟩ := MemoryCache.mem_keys.mp listed
  exact ⟨entry, stored⟩

end Setup

/-- A key that stood under one of the names, or whose entry is not there any more. -/
def Session.Evicts (before after : Session (Site Outside)) (target : Invalidation)
    (key : String) : Prop :=
  before.DependsOn target key ∨
    ((∃ entry, (key, entry) ∈ before.entries) ∧ ∀ entry, (key, entry) ∉ after.entries)

/-- Of the entries those go that have to, and only those; an entry that stays is the same as before,
with its value and its end. The names go from their index, and the keys that are evicted from both;
no other pair of a name and a key goes. -/
structure Session.Invalidated (start : String) (target : Invalidation) (dropped : Nat)
    (before after : Session (Site Outside)) : Prop where
  gone : ∀ key entry, before.DependsOn target key → (key, entry) ∉ after.entries
  stays : ∀ key entry, (key, entry) ∈ before.entries → ¬before.DependsOn target key →
    (∀ name ∈ target.names, ¬CarriesName key start name) → (key, entry) ∈ after.entries
  derived : ∀ digest entry, (start ++ "query:" ++ digest, entry) ∈ before.entries →
    ¬before.DependsOn target (start ++ "query:" ++ digest) →
      (start ++ "query:" ++ digest, entry) ∈ after.entries
  tables : ∀ name key, key ∈ after.keysFor name ↔ key ∈ before.keysFor name ∧
    (∀ table ∈ target.tables, Text.lower name ≠ Text.lower table) ∧
      ¬before.Evicts after target key
  tags : ∀ name key, key ∈ after.tagKeysFor name ↔ key ∈ before.tagKeysFor name ∧
    (∀ tag ∈ target.tags, Text.lower name ≠ Text.lower tag) ∧ ¬before.Evicts after target key
  removed : after.entries.Sublist before.entries ∧
    dropped + after.entries.length = before.entries.length
  stats : after.cache.stats = before.cache.stats.countInvalidation.countDeletes dropped
  world : after.world = { before.world with
    store := { before.world.store with entries := after.entries } }

namespace Setup

variable (setup : Setup Outside) (session : Session (Site Outside)) (target : Invalidation)

theorem invalidate_after :
    let keys := setup.reached target session
    (setup.cache.invalidate target session).2 =
      { world := { session.world with store := { session.world.store with
          entries := session.entries.filter (fun entry => !keys.contains entry.1) } }
        cache :=
          { tables := keys.foldl KeyIndex.forgetKey (session.cache.tables.takeAll target.tables).2
            tags := keys.foldl KeyIndex.forgetKey (session.cache.tags.takeAll target.tags).2
            stats := session.cache.stats.countInvalidation.countDeletes
              (setup.cache.invalidate target session).1 } } := by
  rw [invalidate_eq]
  dsimp only
  rw [dropKeys_run, MemoryCache.foldl_remove_eq, CacheState.foldl_forget_eq]
  rfl

theorem mem_invalidate {kept : String × MemoryEntry} :
    kept ∈ (setup.cache.invalidate target session).2.entries ↔
      kept ∈ session.entries ∧ kept.1 ∉ setup.reached target session := by
  rw [invalidate_after]
  simp [Session.entries]

theorem invalidate_size (distinct : session.world.store.Distinct) :
    (setup.cache.invalidate target session).1 +
      (setup.cache.invalidate target session).2.entries.length = session.entries.length := by
  have size :=
    setup.dropKeys_size (setup.reached target session) (namesTaken session target) distinct
  rw [invalidate_eq]
  unfold Session.entries
  dsimp only
  rw [dropKeys_run]
  exact size

theorem reached_iff_evicts {key : String} :
    key ∈ setup.reached target session ↔
      session.Evicts (setup.cache.invalidate target session).2 target key := by
  constructor
  · intro found
    rcases (mem_reached setup session target).mp found with named | ⟨_, swept⟩
    · exact .inl named
    · refine .inr ⟨stored_of_mem_sweep setup session swept, ?_⟩
      intro entry stayed
      exact ((mem_invalidate setup session target).mp stayed).2 found
  · rintro (named | ⟨⟨entry, stored⟩, gone⟩)
    · exact (mem_reached setup session target).mpr (.inl named)
    · by_contra missed
      exact gone entry ((mem_invalidate setup session target).mpr ⟨stored, missed⟩)

end Setup

/-- An invalidation evicts what it must and nothing else, in every state that a session can be in
and for all names, whatever marks of patterns they have in them. -/
theorem invalidation_evicts_what_it_must (setup : Setup Outside)
    {session : Session (Site Outside)} (arises : setup.Arises session) (target : Invalidation) :
    let result := setup.cache.invalidate target session
    session.Invalidated setup.caching.keyStart target result.1 result.2 := by
  intro result
  obtain ⟨distinct, orderly⟩ := arises.orderly
  have stays : ∀ key entry, (key, entry) ∈ session.entries → ¬session.DependsOn target key →
      (∀ name ∈ target.names, ¬CarriesName key setup.caching.keyStart name) →
        (key, entry) ∈ result.2.entries := by
    intro key entry stored apart unnamed
    refine (setup.mem_invalidate session target).mpr ⟨stored, ?_⟩
    intro found
    rcases (setup.mem_reached session target).mp found with named | ⟨_, swept⟩
    · exact apart named
    · obtain ⟨name, listed, _, carried⟩ := (setup.mem_sweep session).mp swept
      exact unnamed name listed carried
  have after := setup.invalidate_after session target
  refine ⟨?_, stays, ?_, ?_, ?_, ⟨?_, setup.invalidate_size session target distinct⟩, ?_, ?_⟩
  · intro key entry named stayed
    have missed := ((setup.mem_invalidate session target).mp stayed).2
    exact missed ((setup.mem_reached session target).mpr (.inl named))
  · intro digest entry stored apart
    exact stays _ entry stored apart (fun name _ => not_carriesName_of_derived rfl)
  · intro name key
    rw [← setup.reached_iff_evicts]
    unfold result Session.keysFor
    rw [after]
    exact orderly.tables.mem_keysFor_left
  · intro name key
    rw [← setup.reached_iff_evicts]
    unfold result Session.tagKeysFor
    rw [after]
    exact orderly.tags.mem_keysFor_left
  · unfold result
    rw [after]
    exact List.filter_sublist
  · exact congrArg (fun session => session.cache.stats) after
  · unfold result
    rw [after]
    rfl

def shelvedSession : Session (Site Nat) :=
  let filled := Step.run countingSetup (Setup.opening 0 8 none)
    [.put "quarry:users:list" .null none, .put "quarry:superusers" .null none,
      .put "totals" .null none]
  { filled with cache :=
    { filled.cache with tables := filled.cache.tables.after (.insert "Users" "totals") } }

/-- The sweep finds `users` among the segments of the first key, the index leads to the last. -/
theorem superusers_outlive_users :
    let result := countingSetup.cache.invalidate { tables := ["USERS"] } shelvedSession
    countingSetup.Arises shelvedSession ∧
      shelvedSession.Invalidated "quarry:" { tables := ["USERS"] } result.1 result.2 ∧
      result.1 = 2 ∧ result.2.entries.map Prod.fst = ["quarry:superusers"] := by
  have arises : countingSetup.Arises shelvedSession :=
    .tables (.step (.step (.step (.opening 0 8 none) _) _) _) (.insert "Users" "totals")
  exact ⟨arises, invalidation_evicts_what_it_must countingSetup arises _, by decide +kernel,
    by decide +kernel⟩

end BoundQuery
