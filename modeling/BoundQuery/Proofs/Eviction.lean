import BoundQuery.Proofs.DistinctKeys

/-!
How the store in memory makes room. It does so for a key that is not stored yet, and only when it is
full: what has ended goes first, and if that is not enough one of the oldest entries goes too.
-/

set_option autoImplicit false

namespace BoundQuery

namespace MemoryCache

variable {cache : MemoryCache}

theorem mem_keys {now : Nat} {pattern : Option KeyPattern} {key : String} :
    key ∈ cache.keys now pattern ↔
      (∃ entry, (key, entry) ∈ cache.entries ∧ entry.isLive now = true) ∧
        pattern.all (fun given => given.accepts key) = true := by
  simp [keys, mem_insertKeys]

theorem keys_sorted (now : Nat) (pattern : Option KeyPattern) :
    (cache.keys now pattern).Pairwise (· < ·) :=
  insertKeys_sorted _ List.Pairwise.nil

/-- The other keys that are listed now and, once the value is set, not held any more. -/
def evicted (cache : MemoryCache) (now : Nat) (key : String) (value : Json) (ttl : Option Nat) :
    List String :=
  (cache.keys now none).filter
    (fun other => other != key && !(cache.set now key value ttl).holds now other)

theorem oldest?_of_ne_nil {entries : List (String × MemoryEntry)} (some : entries ≠ []) :
    ∃ old ∈ entries, oldest? entries = .some (old.1, old.2.created) ∧
      ∀ kept ∈ entries, old.2.created ≤ kept.2.created := by
  induction entries with
  | nil => exact absurd rfl some
  | cons first rest ih =>
      unfold oldest?
      by_cases last : rest = []
      · subst last
        refine ⟨first, List.mem_cons_self, rfl, ?_⟩
        intro kept member
        cases List.mem_singleton.mp member
        exact Nat.le_refl _
      · obtain ⟨old, stored, found, least⟩ := ih last
        rw [found]
        dsimp only
        by_cases older : old.2.created < first.2.created
        · rw [if_pos older]
          refine ⟨old, List.mem_cons_of_mem first stored, rfl, ?_⟩
          intro kept member
          rcases List.mem_cons.mp member with here | there
          · rw [here]
            exact Nat.le_of_lt older
          · exact least kept there
        · rw [if_neg older]
          refine ⟨first, List.mem_cons_self, rfl, ?_⟩
          intro kept member
          rcases List.mem_cons.mp member with here | there
          · cases here
            exact Nat.le_refl _
          · exact Nat.le_trans (Nat.le_of_not_lt older) (least kept there)

theorem dropOldest_of_lt (steps : Nat) (room : cache.size < cache.capacity) :
    dropOldest steps cache = cache := by
  cases steps with
  | zero => rfl
  | succ steps =>
      unfold dropOldest
      rw [if_pos room]

theorem makeRoom_of_lt {now : Nat} (room : (cache.dropExpired now).size < max cache.capacity 1) :
    cache.makeRoom now = cache.dropExpired now := by
  unfold makeRoom
  by_cases capable : cache.capacity = 0
  · have none : (cache.dropExpired now).size = 0 := by omega
    dsimp only
    rw [none]
    rfl
  · refine dropOldest_of_lt _ ?_
    change (cache.dropExpired now).size < cache.capacity
    omega

theorem makeRoom_of_full (distinct : cache.Distinct) {now : Nat}
    (full : (cache.dropExpired now).size = max cache.capacity 1) :
    ∃ old ∈ (cache.dropExpired now).entries,
      (∀ kept ∈ (cache.dropExpired now).entries, old.2.created ≤ kept.2.created) ∧
        cache.makeRoom now = (cache.dropExpired now).remove old.1 := by
  let cleaned := cache.dropExpired now
  change cleaned.size = _ at full
  have inhabited : cleaned.entries ≠ [] := by
    intro none
    have empty : cleaned.size = 0 := congrArg List.length none
    omega
  obtain ⟨old, stored, found, least⟩ := oldest?_of_ne_nil inhabited
  refine ⟨old, stored, least, ?_⟩
  have fewer := (distinct.dropExpired now).size_remove old.1
  rw [(distinct.dropExpired now).find?_of_mem stored] at fewer
  change (cleaned.remove old.1).size + 1 = cleaned.size at fewer
  obtain ⟨steps, counted⟩ : ∃ steps, cleaned.size = steps + 1 := ⟨_, fewer.symm⟩
  change dropOldest cleaned.size cleaned = cleaned.remove old.1
  have crowded : ¬cleaned.size < cleaned.capacity := by
    change ¬cleaned.size < cache.capacity
    omega
  rw [counted, dropOldest, if_neg crowded, found]
  dsimp only
  by_cases capable : cache.capacity = 0
  · -- Without any capacity the one entry that may be stored is the only step.
    have last : steps = 0 := by omega
    rw [last]
    rfl
  · refine dropOldest_of_lt _ ?_
    change (cleaned.remove old.1).size < cache.capacity
    omega

theorem dropOldest_settings (steps : Nat) :
    ∀ cache : MemoryCache, (dropOldest steps cache).capacity = cache.capacity ∧
      (dropOldest steps cache).defaultTtl = cache.defaultTtl := by
  induction steps with
  | zero => exact fun _ => ⟨rfl, rfl⟩
  | succ steps ih =>
      intro cache
      unfold dropOldest
      split
      · exact ⟨rfl, rfl⟩
      · split
        · exact ⟨rfl, rfl⟩
        · exact ih (cache.remove _)

/-! ### Setting a value -/

def roomFor (cache : MemoryCache) (now : Nat) (key : String) : MemoryCache :=
  if (cache.find? key).isNone && cache.capacity ≤ cache.size then cache.makeRoom now else cache

def placed (defaultTtl : Option Nat) (value : Json) (time : Nat) (ttl : Option Nat) :
    MemoryEntry :=
  ⟨value, time, (ttl <|> defaultTtl).map (time + ·)⟩

theorem placed_isLive_iff {defaultTtl : Option Nat} {value : Json} {time now : Nat}
    {ttl : Option Nat} :
    (placed defaultTtl value time ttl).isLive now = true ↔
      ∀ lifetime, (ttl <|> defaultTtl) = some lifetime → now < time + lifetime := by
  unfold placed MemoryEntry.isLive
  cases (ttl <|> defaultTtl) with
  | none => simp
  | some lifetime => simp

theorem set_settings (cache : MemoryCache) (now : Nat) (key : String) (value : Json)
    (ttl : Option Nat) :
    (cache.set now key value ttl).capacity = cache.capacity ∧
      (cache.set now key value ttl).defaultTtl = cache.defaultTtl := by
  unfold set
  split
  · exact dropOldest_settings _ (cache.dropExpired now)
  · exact ⟨rfl, rfl⟩

theorem mem_set {now : Nat} {key : String} {value : Json} {ttl : Option Nat}
    {kept : String × MemoryEntry} :
    kept ∈ (cache.set now key value ttl).entries ↔
      (kept ∈ (cache.roomFor now key).entries ∧ kept.1 ≠ key) ∨
        kept = (key, placed cache.defaultTtl value now ttl) := by
  change kept ∈ ((cache.roomFor now key).remove key).entries ++ [_] ↔ _
  rw [List.mem_append, mem_remove, List.mem_singleton]
  rfl

theorem mem_of_roomFor {now : Nat} {key : String} {kept : String × MemoryEntry}
    (member : kept ∈ (cache.roomFor now key).entries) : kept ∈ cache.entries := by
  unfold roomFor at member
  split at member
  · exact mem_of_makeRoom member
  · exact member

/-- Room is made for a key that is not stored, and only where the store is full: by dropping what
has ended, and one of the oldest where that is not enough. -/
inductive MakesRoom (cache : MemoryCache) (now : Nat) (key : String) : MemoryCache → Prop where
  | spare (known : (cache.find? key).isSome = true ∨ cache.size < max cache.capacity 1) :
      MakesRoom cache now key cache
  | ended (missing : cache.find? key = none)
      (room : (cache.dropExpired now).size < max cache.capacity 1) :
      MakesRoom cache now key (cache.dropExpired now)
  | oldest (missing : cache.find? key = none)
      (full : (cache.dropExpired now).size = max cache.capacity 1)
      {old : String × MemoryEntry} (stored : old ∈ (cache.dropExpired now).entries)
      (least : ∀ kept ∈ (cache.dropExpired now).entries, old.2.created ≤ kept.2.created) :
      MakesRoom cache now key ((cache.dropExpired now).remove old.1)

theorem holds_of_missing {key : String} (missing : cache.find? key = none) (now : Nat) :
    cache.holds now key = false := by
  unfold holds live?
  rw [missing]
  rfl

theorem find?_dropExpired_of_missing {key : String} (missing : cache.find? key = none)
    (now : Nat) : (cache.dropExpired now).find? key = none := by
  refine List.lookup_eq_none_iff.mpr ?_
  intro kept member
  exact List.lookup_eq_none_iff.mp missing kept (mem_of_dropExpired member)

theorem size_filter_le (test : String × MemoryEntry → Bool) :
    size { cache with entries := cache.entries.filter test } ≤ cache.size :=
  List.length_filter_le test cache.entries

namespace Distinct

variable {now : Nat} {key : String} {value : Json} {ttl : Option Nat}

theorem makesRoom (distinct : cache.Distinct) (bounded : cache.size ≤ max cache.capacity 1)
    (now : Nat) (key : String) : MakesRoom cache now key (cache.roomFor now key) := by
  have fewer : (cache.dropExpired now).size ≤ cache.size := size_filter_le _
  unfold roomFor
  by_cases crowded : ((cache.find? key).isNone && decide (cache.capacity ≤ cache.size)) = true
  · rw [if_pos crowded]
    have missing : cache.find? key = none :=
      Option.isNone_iff_eq_none.mp (Bool.and_eq_true_iff.mp crowded).1
    by_cases room : (cache.dropExpired now).size < max cache.capacity 1
    · rw [makeRoom_of_lt room]
      exact .ended missing room
    · have full : (cache.dropExpired now).size = max cache.capacity 1 := by omega
      obtain ⟨old, stored, least, made⟩ := makeRoom_of_full distinct full
      rw [made]
      exact .oldest missing full stored least
  · rw [if_neg crowded]
    refine .spare ?_
    cases found : cache.find? key with
    | some entry => exact .inl rfl
    | none =>
        right
        simp only [found, Option.isNone_none, Bool.true_and, decide_eq_true_eq] at crowded
        omega

theorem size_set (distinct : cache.Distinct) (bounded : cache.size ≤ max cache.capacity 1) :
    (cache.set now key value ttl).size ≤ max cache.capacity 1 := by
  have added : (cache.set now key value ttl).size = ((cache.roomFor now key).remove key).size + 1 :=
    List.length_append
  have fewer : ((cache.roomFor now key).remove key).size ≤ (cache.roomFor now key).size :=
    size_filter_le _
  have made := distinct.makesRoom bounded now key
  generalize cache.roomFor now key = roomy at added fewer made
  cases made with
  | spare known =>
      rcases known with stored | room
      · have one := distinct.size_remove key
        rw [if_pos stored] at one
        omega
      · omega
  | ended missing room => omega
  | @oldest missing full old stored least =>
      have one := (distinct.dropExpired now).size_remove old.1
      rw [(distinct.dropExpired now).find?_of_mem stored] at one
      simp only [Option.isSome_some, if_true] at one
      omega

/-- Evicted is what has a live entry that does not stay when room is made. -/
theorem mem_evicted (distinct : cache.Distinct) {other : String} :
    other ∈ cache.evicted now key value ttl ↔ other ≠ key ∧
      ∃ entry, (other, entry) ∈ cache.entries ∧ entry.isLive now = true ∧
        (other, entry) ∉ (cache.roomFor now key).entries := by
  have later := distinct.set now key value ttl
  unfold evicted
  rw [List.mem_filter, mem_keys, Bool.and_eq_true, bne_iff_ne, Bool.not_eq_true']
  constructor
  · rintro ⟨⟨⟨entry, stored, live⟩, _⟩, differs, unheld⟩
    refine ⟨differs, entry, stored, live, ?_⟩
    intro stays
    have held := later.holds_iff.mpr ⟨entry, mem_set.mpr (.inl ⟨stays, differs⟩), live⟩
    rw [unheld] at held
    cases held
  · rintro ⟨differs, entry, stored, live, gone⟩
    refine ⟨⟨⟨entry, stored, live⟩, rfl⟩, differs, Bool.eq_false_iff.mpr ?_⟩
    intro held
    obtain ⟨left, member, _⟩ := later.holds_iff.mp held
    rcases mem_set.mp member with ⟨stays, _⟩ | new
    · rw [distinct.entry_unique stored (mem_of_roomFor stays)] at gone
      exact gone stays
    · exact differs (congrArg Prod.fst new)

theorem length_others (distinct : cache.Distinct) (now : Nat) (key : String) :
    ((cache.keys now none).filter (· != key)).length =
      ((cache.dropExpired now).remove key).size := by
  have once : ((cache.keys now none).filter (· != key)).Nodup :=
    (nodup_of_sorted (keys_sorted now none)).filter _
  have same : ((cache.keys now none).filter (· != key)).Perm
      (((cache.dropExpired now).remove key).entries.map Prod.fst) := by
    refine (List.perm_ext_iff_of_nodup once ((distinct.dropExpired now).remove key)).mpr ?_
    intro other
    rw [List.mem_filter, mem_keys, List.mem_map, bne_iff_ne]
    constructor
    · rintro ⟨⟨⟨entry, stored, live⟩, _⟩, differs⟩
      exact ⟨(other, entry), mem_remove.mpr ⟨mem_dropExpired stored live, differs⟩, rfl⟩
    · rintro ⟨⟨_, entry⟩, member, rfl⟩
      obtain ⟨stays, differs⟩ := mem_remove.mp member
      obtain ⟨stored, live⟩ := List.mem_filter.mp stays
      exact ⟨⟨⟨entry, stored, live⟩, rfl⟩, differs⟩
  rw [same.length_eq, List.length_map]
  rfl

theorem evicted_eq_nil (distinct : cache.Distinct)
    (stays : ∀ kept ∈ cache.entries, kept.2.isLive now = true →
      kept ∈ (cache.roomFor now key).entries) :
    cache.evicted now key value ttl = [] := by
  refine List.eq_nil_iff_forall_not_mem.mpr ?_
  intro other member
  obtain ⟨_, entry, stored, live, gone⟩ := distinct.mem_evicted.mp member
  exact gone (stays _ stored live)

theorem evicted_eq_singleton (distinct : cache.Distinct) {old : String × MemoryEntry}
    (made : cache.roomFor now key = (cache.dropExpired now).remove old.1)
    (stored : old ∈ cache.entries) (live : old.2.isLive now = true) (differs : old.1 ≠ key) :
    cache.evicted now key value ttl = [old.1] := by
  have once : (cache.evicted now key value ttl).Nodup :=
    (nodup_of_sorted (keys_sorted now none)).filter _
  refine List.perm_singleton.mp
    ((List.perm_ext_iff_of_nodup once (List.nodup_singleton old.1)).mpr ?_)
  intro other
  rw [distinct.mem_evicted, List.mem_singleton, made]
  constructor
  · rintro ⟨_, entry, there, alive, gone⟩
    by_contra another
    exact gone (mem_remove.mpr ⟨mem_dropExpired there alive, another⟩)
  · rintro rfl
    exact ⟨differs, old.2, stored, live, fun stays => (mem_remove.mp stays).2 rfl⟩

/-- A set gives up nothing that lives, unless its key has no live entry and the others fill the
store; then it gives up one of the oldest. -/
theorem evicted_cases (distinct : cache.Distinct) (bounded : cache.size ≤ max cache.capacity 1)
    (now : Nat) (key : String) (value : Json) (ttl : Option Nat) :
    let others := (cache.keys now none).filter (· != key)
    (cache.evicted now key value ttl = [] ∧ others.length < max cache.capacity 1) ∨
      (cache.holds now key = false ∧ max cache.capacity 1 ≤ others.length ∧
        ∃ old ∈ cache.entries, cache.evicted now key value ttl = [old.1] ∧
          old.2.isLive now = true ∧
          ∀ kept ∈ cache.entries, kept.2.isLive now = true → old.2.created ≤ kept.2.created) := by
  intro others
  have counted : others.length = _ := distinct.length_others now key
  have made := distinct.makesRoom bounded now key
  generalize found : cache.roomFor now key = roomy at made
  cases made with
  | spare known =>
      left
      refine ⟨distinct.evicted_eq_nil ?_, ?_⟩
      · rw [found]
        exact fun _ stored _ => stored
      · have fewer : ((cache.dropExpired now).remove key).size ≤ (cache.remove key).size :=
          (List.filter_sublist.filter _).length_le
        have one := distinct.size_remove key
        rcases known with stored | room
        · rw [if_pos stored] at one
          omega
        · omega
  | ended missing room =>
      left
      refine ⟨distinct.evicted_eq_nil ?_, ?_⟩
      · rw [found]
        exact fun _ stored live => mem_dropExpired stored live
      · have fewer : ((cache.dropExpired now).remove key).size ≤ (cache.dropExpired now).size :=
          size_filter_le _
        omega
  | @oldest missing full old stored least =>
      right
      obtain ⟨member, live⟩ := List.mem_filter.mp stored
      have one := (distinct.dropExpired now).size_remove key
      rw [find?_dropExpired_of_missing missing now, if_neg (by simp)] at one
      refine ⟨holds_of_missing missing now, by omega, old, member, ?_, live, ?_⟩
      · exact distinct.evicted_eq_singleton found member live (find?_eq_none missing member)
      · intro kept there alive
        exact least kept (mem_dropExpired there alive)

end Distinct

end MemoryCache

end BoundQuery
