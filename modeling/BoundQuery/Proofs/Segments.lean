import BoundQuery.Cache.Result
import Mathlib.Data.List.TakeWhile

/-!
Names in keys. A key is taken apart at its colons, in one way only; a name is looked for among the
segments between the start of the key and its first segment `query`.
-/

set_option autoImplicit false

namespace BoundQuery

theorem any_takeWhile_iff {Item : Type} {passes test : Item → Bool} {items : List Item} :
    (items.takeWhile passes).any test = true ↔
      ∃ before own after, items = before ++ own :: after ∧
        (∀ item ∈ before, passes item = true) ∧ passes own = true ∧ test own = true := by
  constructor
  · intro found
    obtain ⟨own, member, tested⟩ := List.any_eq_true.mp found
    obtain ⟨before, between, split⟩ := List.append_of_mem member
    have passing : ∀ item ∈ items.takeWhile passes, passes item = true :=
      fun item there => List.mem_takeWhile_imp there
    refine ⟨before, own, between ++ items.dropWhile passes, ?_, ?_, passing own member, tested⟩
    · rw [← List.cons_append, ← List.append_assoc, ← split, List.takeWhile_append_dropWhile]
    · intro item earlier
      apply passing
      rw [split]
      exact List.mem_append_left _ earlier
  · rintro ⟨before, own, after, rfl, passing, passes, tested⟩
    refine List.any_eq_true.mpr ⟨own, ?_, tested⟩
    rw [List.takeWhile_append_of_pos passing, List.takeWhile_cons_of_pos passes]
    exact List.mem_append_right _ List.mem_cons_self

/-- Behind its start the key consists of segments between colons, and the name is one of them, apart
from the case of ASCII letters; neither it nor any before it is the segment `query`. -/
def CarriesName (key start name : String) : Prop :=
  ∃ before own after, key.toList = start.toList ++ [':'].intercalate (before ++ own :: after) ∧
    (∀ segment ∈ before ++ own :: after, ':' ∉ segment) ∧
    (∀ segment ∈ before, segment ≠ "query".toList) ∧ own ≠ "query".toList ∧
    Text.equalsIgnoringCase own name.toList = true

theorem namesSegment_iff {key start name : String} :
    namesSegment key start name = true ↔ CarriesName key start name := by
  unfold namesSegment CarriesName
  constructor
  · intro named
    cases found : Text.after? start.toList key.toList with
    | none =>
        rw [found] at named
        cases named
    | some rest =>
        rw [found] at named
        obtain ⟨before, own, after, split, earlier, passes, equal⟩ := any_takeWhile_iff.mp named
        refine ⟨before, own, after, ?_, ?_, ?_, by simpa using passes, equal⟩
        · rw [← split, List.intercalate_splitOn]
          exact Text.after?_eq_some_iff.mp found
        · intro segment member
          rw [← split] at member
          exact Text.not_mem_of_mem_splitOn member
        · intro segment member
          simpa using earlier segment member
  · rintro ⟨before, own, after, text, whole, earlier, differs, equal⟩
    rw [Text.after?_eq_some_iff.mpr text]
    dsimp only
    rw [List.splitOn_intercalate ':' whole (by simp)]
    refine any_takeWhile_iff.mpr ⟨before, own, after, rfl, ?_, by simpa using differs, equal⟩
    intro segment member
    simpa using earlier segment member

theorem not_carriesName_of_derived {key start digest name : String}
    (derived : key = start ++ "query:" ++ digest) : ¬CarriesName key start name := by
  rw [← namesSegment_iff, derived]
  have text : (start ++ "query:" ++ digest).toList =
      start.toList ++ ("query".toList ++ ':' :: digest.toList) := by
    simp
  unfold namesSegment
  rw [Text.after?_eq_some_iff.mpr text]
  dsimp only
  rw [List.splitOn_append_cons_self_of_not_mem (by decide)]
  simp

end BoundQuery
