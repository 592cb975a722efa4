import BoundQuery.Cache.Memory
import BoundQuery.Cache.Result
import Mathlib.Data.List.Basic

/-!
What the store in memory and the index of names keep through each of their operations: which entries
a store may still hold, and which keys an index has under which names.
-/

set_option autoImplicit false

namespace BoundQuery

theorem mem_of_lookup {Item : Type} {entries : List (String × Item)} {key : String} {item : Item}
    (found : entries.lookup key = some item) : (key, item) ∈ entries := by
  obtain ⟨before, after, split, _⟩ := List.lookup_eq_some_iff.mp found
  rw [split]
  exact List.mem_append_right before List.mem_cons_self

namespace MemoryCache

theorem mem_remove {cache : MemoryCache} {key : String} {kept : String × MemoryEntry} :
    kept ∈ (cache.remove key).entries ↔ kept ∈ cache.entries ∧ kept.1 ≠ key := by
  simp [remove]

theorem mem_of_dropExpired {cache : MemoryCache} {now : Nat} {kept : String × MemoryEntry}
    (member : kept ∈ (cache.dropExpired now).entries) : kept ∈ cache.entries := by
  simp only [dropExpired, List.mem_filter] at member
  exact member.1

theorem mem_dropExpired {cache : MemoryCache} {now : Nat} {kept : String × MemoryEntry}
    (stored : kept ∈ cache.entries) (live : kept.2.isLive now = true) :
    kept ∈ (cache.dropExpired now).entries :=
  List.mem_filter.mpr ⟨stored, live⟩

theorem mem_of_dropOldest {kept : String × MemoryEntry} (steps : Nat) :
    ∀ cache : MemoryCache, kept ∈ (dropOldest steps cache).entries → kept ∈ cache.entries := by
  induction steps with
  | zero =>
      intro cache member
      exact member
  | succ steps ih =>
      intro cache member
      unfold dropOldest at member
      split at member
      · exact member
      · split at member
        · exact member
        · exact (mem_remove.mp (ih _ member)).1

theorem mem_of_makeRoom {cache : MemoryCache} {now : Nat} {kept : String × MemoryEntry}
    (member : kept ∈ (cache.makeRoom now).entries) : kept ∈ cache.entries :=
  mem_of_dropExpired (mem_of_dropOldest _ _ member)

theorem mem_of_set_entry {cache : MemoryCache} {now : Nat} {key : String} {value : Json}
    {ttl : Option Nat} {kept : String × MemoryEntry}
    (member : kept ∈ (cache.set now key value ttl).entries) :
    (kept ∈ cache.entries ∧ kept.1 ≠ key) ∨
      kept = (key, ⟨value, now, (ttl <|> cache.defaultTtl).map (now + ·)⟩) := by
  unfold set at member
  rcases List.mem_append.mp member with old | new
  · left
    obtain ⟨roomy, other⟩ := mem_remove.mp old
    refine ⟨?_, other⟩
    split at roomy
    · exact mem_of_makeRoom roomy
    · exact roomy
  · right
    exact List.mem_singleton.mp new

theorem mem_of_set {cache : MemoryCache} {now : Nat} {key : String} {value : Json}
    {ttl : Option Nat} {kept : String × MemoryEntry}
    (member : kept ∈ (cache.set now key value ttl).entries) :
    (kept ∈ cache.entries ∧ kept.1 ≠ key) ∨ (kept.1 = key ∧ kept.2.value = value) := by
  refine (mem_of_set_entry member).imp_right fun new => ?_
  rw [new]
  exact ⟨rfl, rfl⟩

theorem find?_eq_none {cache : MemoryCache} {key : String} (missing : cache.find? key = none)
    {kept : String × MemoryEntry} (member : kept ∈ cache.entries) : kept.1 ≠ key := by
  intro same
  have distinct := List.lookup_eq_none_iff.mp missing kept member
  simp [same] at distinct

theorem mem_of_find? {cache : MemoryCache} {key : String} {entry : MemoryEntry}
    (found : cache.find? key = some entry) : (key, entry) ∈ cache.entries :=
  mem_of_lookup found

theorem mem_of_get {cache : MemoryCache} {now : Nat} {key : String}
    {kept : String × MemoryEntry} (member : kept ∈ (cache.get now key).2.entries) :
    kept ∈ cache.entries := by
  unfold get at member
  split at member
  · exact member
  · split at member
    · exact member
    · exact (mem_remove.mp member).1

theorem get_found {cache : MemoryCache} {now : Nat} {key : String} {value : Json}
    (found : (cache.get now key).1 = some value) :
    ∃ entry, (key, entry) ∈ cache.entries ∧ entry.value = value ∧ entry.isLive now = true ∧
      cache.get now key = (some value, cache) := by
  unfold get at found ⊢
  split at found
  · cases found
  · rename_i entry stored
    split at found
    · rename_i live
      cases found
      exact ⟨entry, mem_of_find? stored, rfl, live, if_pos live⟩
    · cases found

theorem get_eq_some {cache : MemoryCache} {now : Nat} {key : String} {value : Json}
    (found : (cache.get now key).1 = some value) :
    ∃ entry, (key, entry) ∈ cache.entries ∧ entry.value = value := by
  obtain ⟨entry, stored, held, _⟩ := get_found found
  exact ⟨entry, stored, held⟩

theorem get_eq_none {cache : MemoryCache} {now : Nat} {key : String}
    (missing : (cache.get now key).1 = none) {kept : String × MemoryEntry}
    (member : kept ∈ (cache.get now key).2.entries) : kept.1 ≠ key := by
  unfold get at missing member
  cases found : cache.find? key with
  | none =>
      rw [found] at member
      exact find?_eq_none found member
  | some entry =>
      rw [found] at missing member
      by_cases live : entry.isLive now = true
      · simp [live] at missing
      · simp only [live] at member
        exact (mem_remove.mp member).2

end MemoryCache

/-! ### Keys of the index -/

theorem mem_insertKey {key other : String} {keys : List String} :
    other ∈ insertKey key keys ↔ other = key ∨ other ∈ keys := by
  induction keys with
  | nil => simp [insertKey]
  | cons first rest ih =>
      unfold insertKey
      split
      · simp
      · split
        · rename_i same
          rw [beq_iff_eq] at same
          subst same
          simp
        · simp only [List.mem_cons, ih]
          constructor
          · rintro (here | here | here)
            · exact .inr (.inl here)
            · exact .inl here
            · exact .inr (.inr here)
          · rintro (here | here | here)
            · exact .inr (.inl here)
            · exact .inl here
            · exact .inr (.inr here)

theorem mem_insertKeys {found : List String} {other : String} :
    ∀ {keys : List String}, other ∈ insertKeys keys found ↔ other ∈ keys ∨ other ∈ found := by
  induction found with
  | nil =>
      intro keys
      simp [insertKeys]
  | cons key rest ih =>
      intro keys
      have further := @ih (insertKey key keys)
      unfold insertKeys at further ⊢
      rw [List.foldl_cons, further, mem_insertKey, List.mem_cons]
      constructor
      · rintro ((here | here) | here)
        · exact .inr (.inl here)
        · exact .inl here
        · exact .inr (.inr here)
      · rintro (here | here | here)
        · exact .inl (.inr here)
        · exact .inl (.inl here)
        · exact .inr here

theorem insertKey_sorted (key : String) {keys : List String} (sorted : keys.Pairwise (· < ·)) :
    (insertKey key keys).Pairwise (· < ·) := by
  induction keys with
  | nil => exact List.pairwise_singleton _ key
  | cons first rest ih =>
      obtain ⟨least, others⟩ := List.pairwise_cons.mp sorted
      unfold insertKey
      split
      · rename_i before
        refine List.pairwise_cons.mpr ⟨?_, sorted⟩
        intro other member
        rcases List.mem_cons.mp member with here | there
        · rw [here]
          exact before
        · exact String.lt_trans before (least other there)
      · split
        · exact sorted
        · rename_i notBefore differs
          refine List.pairwise_cons.mpr ⟨?_, ih others⟩
          intro other member
          rcases mem_insertKey.mp member with here | there
          · rw [here]
            refine Std.lt_of_le_of_ne (String.not_lt.mp notBefore) ?_
            intro same
            exact differs (beq_iff_eq.mpr same.symm)
          · exact least other there

theorem insertKeys_sorted (found : List String) :
    ∀ {keys : List String}, keys.Pairwise (· < ·) → (insertKeys keys found).Pairwise (· < ·) := by
  induction found with
  | nil => exact fun sorted => sorted
  | cons key rest ih => exact fun sorted => ih (insertKey_sorted key sorted)

theorem nodup_of_sorted {keys : List String} (sorted : keys.Pairwise (· < ·)) : keys.Nodup := by
  refine List.Pairwise.imp ?_ sorted
  intro first second before same
  rw [same] at before
  exact String.lt_irrefl second before

namespace KeyIndex

private def under (name : String) (entries : List (String × List String)) : List String :=
  (entries.lookup name).getD []

private theorem under_cons (name other : String) (keys : List String)
    (rest : List (String × List String)) :
    under name ((other, keys) :: rest) = if name == other then keys else under name rest := by
  simp only [under, List.lookup_cons]
  split
  · rename_i same
    simp [same]
  · rename_i differs
    simp [differs]

theorem keysFor_congr (index : KeyIndex) {name other : String}
    (same : Text.lower name = Text.lower other) : index.keysFor name = index.keysFor other := by
  unfold keysFor
  rw [same]

theorem mem_keysFor_insert_iff {index : KeyIndex} {name key other kept : String} :
    kept ∈ (index.insert name key).keysFor other ↔
      kept ∈ index.keysFor other ∨ (kept = key ∧ Text.lower other = Text.lower name) := by
  obtain ⟨entries⟩ := index
  change kept ∈ ((insertUnder (Text.lower name) key entries).lookup (Text.lower other)).getD [] ↔
    kept ∈ (entries.lookup (Text.lower other)).getD [] ∨ _
  induction entries with
  | nil =>
      rw [insertUnder, List.lookup_cons]
      cases same : Text.lower other == Text.lower name with
      | true => simp [beq_iff_eq.mp same]
      | false => simp [beq_eq_false_iff_ne.mp same]
  | cons entry rest ih =>
      obtain ⟨first, keys⟩ := entry
      unfold insertUnder
      by_cases here : Text.lower name = first
      · subst here
        rw [if_pos (beq_self_eq_true _), List.lookup_cons, List.lookup_cons]
        cases same : Text.lower other == Text.lower name with
        | true => simp [beq_iff_eq.mp same, mem_insertKey, or_comm]
        | false => simp [beq_eq_false_iff_ne.mp same]
      · rw [if_neg (by simpa using here), List.lookup_cons, List.lookup_cons]
        cases same : Text.lower other == first with
        | true =>
            have apart : Text.lower other ≠ Text.lower name := fun named =>
              here (named.symm.trans (beq_iff_eq.mp same))
            simp [apart]
        | false => exact ih

theorem mem_keysFor_forgetKey {index : KeyIndex} {other key kept : String}
    (member : kept ∈ index.keysFor other) (differs : kept ≠ key) :
    kept ∈ (index.forgetKey key).keysFor other := by
  have entries : ∀ entries : List (String × List String),
      kept ∈ under (Text.lower other) entries →
        kept ∈ under (Text.lower other)
          ((entries.map (fun entry => (entry.1, entry.2.filter (· != key)))).filter
            (fun entry => !entry.2.isEmpty)) := by
    intro entries
    induction entries with
    | nil =>
        intro here
        cases here
    | cons entry rest ih =>
        intro here
        obtain ⟨name, keys⟩ := entry
        rw [under_cons] at here
        by_cases same : (Text.lower other == name) = true
        · rw [if_pos same] at here
          have stays : kept ∈ keys.filter (· != key) := by
            rw [List.mem_filter]
            exact ⟨here, by simpa using differs⟩
          have inhabited : (!(keys.filter (· != key)).isEmpty) = true := by
            rw [Bool.not_eq_true', List.isEmpty_eq_false_iff]
            exact List.ne_nil_of_mem stays
          simp only [List.map_cons, List.filter_cons, inhabited, if_true]
          rw [under_cons, if_pos same]
          exact stays
        · rw [if_neg same] at here
          by_cases inhabited : (!(keys.filter (· != key)).isEmpty) = true
          · simp only [List.map_cons, List.filter_cons, inhabited, if_true]
            rw [under_cons, if_neg same]
            exact ih here
          · simp only [List.map_cons, List.filter_cons, inhabited]
            exact ih here
  exact entries index.entries member

theorem keysFor_take {index : KeyIndex} {name other : String}
    (differs : Text.lower other ≠ Text.lower name) :
    (index.take name).2.keysFor other = index.keysFor other := by
  have entries : ∀ entries : List (String × List String),
      under (Text.lower other) (entries.filter (fun entry => entry.1 != Text.lower name)) =
        under (Text.lower other) entries := by
    intro entries
    induction entries with
    | nil => rfl
    | cons entry rest ih =>
        obtain ⟨first, keys⟩ := entry
        by_cases taken : first = Text.lower name
        · have elsewhere : ¬(Text.lower other == first) = true := by
            rw [beq_iff_eq, taken]
            exact differs
          rw [List.filter_cons_of_neg (by simp [taken]), under_cons, if_neg elsewhere]
          exact ih
        · rw [List.filter_cons_of_pos (by simpa using taken), under_cons, under_cons, ih]
  exact entries index.entries

theorem mem_keysFor_take_iff {index : KeyIndex} {name other kept : String} :
    kept ∈ (index.take name).2.keysFor other ↔
      kept ∈ index.keysFor other ∧ Text.lower other ≠ Text.lower name := by
  by_cases same : Text.lower other = Text.lower name
  · have gone : (index.take name).2.entries.lookup (Text.lower other) = none := by
      refine List.lookup_eq_none_iff.mpr ?_
      intro entry member
      have differs : entry.1 ≠ Text.lower name := by
        simpa using (List.mem_filter.mp member).2
      rw [same]
      simpa using Ne.symm differs
    unfold keysFor
    rw [gone]
    simp [same]
  · rw [keysFor_take same]
    simp [same]

theorem mem_keysFor_takeAll_iff {other kept : String} (names : List String) :
    ∀ {index : KeyIndex}, kept ∈ (index.takeAll names).2.keysFor other ↔
      kept ∈ index.keysFor other ∧ ∀ name ∈ names, Text.lower other ≠ Text.lower name := by
  induction names with
  | nil =>
      intro index
      simp [takeAll]
  | cons name rest ih =>
      intro index
      change kept ∈ ((index.take name).2.takeAll rest).2.keysFor other ↔ _
      rw [ih, mem_keysFor_take_iff, List.forall_mem_cons, and_assoc]

theorem mem_takeAll_iff {key : String} (names : List String) :
    ∀ {index : KeyIndex}, key ∈ (index.takeAll names).1 ↔
      ∃ name ∈ names, key ∈ index.keysFor name := by
  induction names with
  | nil =>
      intro index
      simp [takeAll]
  | cons name rest ih =>
      intro index
      change key ∈ index.keysFor name ++ ((index.take name).2.takeAll rest).1 ↔ _
      rw [List.mem_append, ih, List.exists_mem_cons_iff]
      constructor
      · rintro (here | ⟨other, listed, member⟩)
        · exact .inl here
        · exact .inr ⟨other, listed, (mem_keysFor_take_iff.mp member).1⟩
      · rintro (here | ⟨other, listed, member⟩)
        · exact .inl here
        · by_cases same : Text.lower other = Text.lower name
          · left
            rwa [← keysFor_congr _ same]
          · exact .inr ⟨other, listed, mem_keysFor_take_iff.mpr ⟨member, same⟩⟩

theorem mem_takeAll {names : List String} {index : KeyIndex} {name key : String}
    (member : key ∈ index.keysFor name) :
    key ∈ (index.takeAll names).1 ∨
      (key ∈ (index.takeAll names).2.keysFor name ∧
        ∀ taken ∈ names, Text.lower name ≠ Text.lower taken) := by
  by_cases given : ∃ taken ∈ names, Text.lower name = Text.lower taken
  · obtain ⟨taken, listed, same⟩ := given
    rw [index.keysFor_congr same] at member
    exact .inl ((mem_takeAll_iff names).mpr ⟨taken, listed, member⟩)
  · have others : ∀ taken ∈ names, Text.lower name ≠ Text.lower taken :=
      fun taken listed same => given ⟨taken, listed, same⟩
    exact .inr ⟨(mem_keysFor_takeAll_iff names).mpr ⟨member, others⟩, others⟩

theorem mem_keysFor_foldl_insert_iff {key other kept : String} (names : List String) :
    ∀ {index : KeyIndex},
      kept ∈ (names.foldl (fun index name => index.insert name key) index).keysFor other ↔
        kept ∈ index.keysFor other ∨
          (kept = key ∧ ∃ name ∈ names, Text.lower other = Text.lower name) := by
  induction names with
  | nil =>
      intro index
      simp
  | cons name rest ih =>
      intro index
      rw [List.foldl_cons, ih, mem_keysFor_insert_iff, List.exists_mem_cons_iff, or_assoc,
        ← and_or_left]

theorem mem_keysFor_foldl (key : String) (names : List String) (index : KeyIndex) :
    (∀ other kept, kept ∈ index.keysFor other →
        kept ∈ (names.foldl (fun index name => index.insert name key) index).keysFor other) ∧
      ∀ name ∈ names,
        key ∈ (names.foldl (fun index name => index.insert name key) index).keysFor name :=
  ⟨fun _ _ member => (mem_keysFor_foldl_insert_iff names).mpr (.inl member),
    fun name listed => (mem_keysFor_foldl_insert_iff names).mpr (.inr ⟨rfl, name, listed, rfl⟩)⟩

end KeyIndex

end BoundQuery
