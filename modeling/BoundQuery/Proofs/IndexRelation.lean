import BoundQuery.Proofs.DistinctKeys

/-!
An index that has each name once, as an index has whatever was done to it. To forget a key is then
to take just the pairs of that key from it.
-/

set_option autoImplicit false

namespace BoundQuery

namespace KeyIndex

def Distinct (index : KeyIndex) : Prop :=
  (index.entries.map Prod.fst).Nodup

variable {index : KeyIndex}

theorem name_mem_insertUnder {name key other : String} {entries : List (String × List String)} :
    other ∈ (insertUnder name key entries).map Prod.fst ↔
      other = name ∨ other ∈ entries.map Prod.fst := by
  induction entries with
  | nil => simp [insertUnder]
  | cons entry rest ih =>
      obtain ⟨first, keys⟩ := entry
      unfold insertUnder
      by_cases same : (name == first) = true
      · rw [if_pos same, beq_iff_eq.mp same]
        simp
      · rw [if_neg same]
        simp only [List.map_cons, List.mem_cons, ih]
        exact or_left_comm

namespace Distinct

theorem empty : Distinct {} :=
  List.nodup_nil

theorem insert (distinct : index.Distinct) (name key : String) :
    (index.insert name key).Distinct := by
  have entries : ∀ entries : List (String × List String), (entries.map Prod.fst).Nodup →
      ((insertUnder (Text.lower name) key entries).map Prod.fst).Nodup := by
    intro entries
    induction entries with
    | nil => exact fun _ => List.nodup_singleton _
    | cons entry rest ih =>
        obtain ⟨first, keys⟩ := entry
        intro distinct
        obtain ⟨absent, others⟩ := List.nodup_cons.mp distinct
        unfold insertUnder
        by_cases same : (Text.lower name == first) = true
        · rw [if_pos same]
          exact distinct
        · rw [if_neg same]
          refine List.nodup_cons.mpr ⟨?_, ih others⟩
          intro member
          rcases name_mem_insertUnder.mp member with here | there
          · exact same (beq_iff_eq.mpr here.symm)
          · exact absent there
  exact entries index.entries distinct

theorem take (distinct : index.Distinct) (name : String) : (index.take name).2.Distinct :=
  List.Nodup.sublist (List.filter_sublist.map Prod.fst) distinct

theorem takeAll (names : List String) :
    ∀ {index : KeyIndex}, index.Distinct → (index.takeAll names).2.Distinct := by
  induction names with
  | nil => exact fun distinct => distinct
  | cons name rest ih => exact fun distinct => ih (distinct.take name)

theorem forgetKey (distinct : index.Distinct) (key : String) : (index.forgetKey key).Distinct := by
  refine List.Nodup.sublist (List.filter_sublist.map Prod.fst) ?_
  rw [List.map_map]
  exact distinct

end Distinct

theorem exists_of_mem_keysFor {name key : String} (member : key ∈ index.keysFor name) :
    ∃ keys, (Text.lower name, keys) ∈ index.entries ∧ key ∈ keys := by
  unfold keysFor at member
  cases found : index.entries.lookup (Text.lower name) with
  | none =>
      rw [found] at member
      cases member
  | some keys =>
      rw [found] at member
      exact ⟨keys, mem_of_lookup found, member⟩

theorem exists_of_mem_keysFor_forgetKey {name key kept : String}
    (member : kept ∈ (index.forgetKey key).keysFor name) :
    kept ≠ key ∧ ∃ keys, (Text.lower name, keys) ∈ index.entries ∧ kept ∈ keys := by
  obtain ⟨left, stored, inside⟩ := exists_of_mem_keysFor member
  obtain ⟨shrunk, _⟩ := List.mem_filter.mp stored
  obtain ⟨⟨own, keys⟩, held, same⟩ := List.mem_map.mp shrunk
  cases same
  obtain ⟨there, differs⟩ := List.mem_filter.mp inside
  exact ⟨by simpa using differs, keys, held, there⟩

theorem not_mem_keysFor_forgetKey (index : KeyIndex) (key name : String) :
    key ∉ (index.forgetKey key).keysFor name :=
  fun member => (exists_of_mem_keysFor_forgetKey member).1 rfl

namespace Distinct

theorem mem_keysFor_forgetKey_iff (distinct : index.Distinct) {name key kept : String} :
    kept ∈ (index.forgetKey key).keysFor name ↔ kept ∈ index.keysFor name ∧ kept ≠ key := by
  constructor
  · intro member
    obtain ⟨differs, keys, stored, there⟩ := exists_of_mem_keysFor_forgetKey member
    refine ⟨?_, differs⟩
    unfold keysFor
    rw [lookup_of_mem distinct stored]
    exact there
  · rintro ⟨member, differs⟩
    exact KeyIndex.mem_keysFor_forgetKey member differs

theorem mem_keysFor_foldl_forgetKey {name kept : String} (keys : List String) :
    ∀ {index : KeyIndex}, index.Distinct →
      (kept ∈ (keys.foldl KeyIndex.forgetKey index).keysFor name ↔
        kept ∈ index.keysFor name ∧ kept ∉ keys) := by
  induction keys with
  | nil =>
      intro index _
      simp
  | cons key rest ih =>
      intro index distinct
      rw [List.foldl_cons, ih (distinct.forgetKey key), distinct.mem_keysFor_forgetKey_iff,
        List.mem_cons, not_or, and_assoc]

end Distinct

end KeyIndex

end BoundQuery
