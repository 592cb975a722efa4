import BoundQuery.Proofs.Invalidation
import BoundQuery.Proofs.Patterns

/-!
The pattern that a sweep starts from. What a sweep lists are the keys with a stretch that matches
the name in lower case. A segment spelled in another case carries the name all the same, and is not
listed.
-/

set_option autoImplicit false

namespace BoundQuery

/-- The name occurs in the key somewhere behind its start, letter by letter. -/
def MentionedBehind (start name key : String) : Prop :=
  ∃ rest, key.toList = start.toList ++ rest ∧ name.toList <:+: rest

/-- Neither a star nor a question mark is in the text. -/
def UnmarkedText (text : String) : Prop :=
  '*' ∉ text.toList ∧ '?' ∉ text.toList

theorem accepts_of_mentioned {start name key : String}
    (mentioned : MentionedBehind start name key) :
    (KeyPattern.mentioning start name).accepts key = true := by
  obtain ⟨rest, text, passed, others, split⟩ := mentioned
  refine KeyPattern.accepts_mentioning_iff.mpr ⟨start.toList, passed, name.toList, others, ?_,
    globMatches_self _, globMatches_self _⟩
  rw [text, ← split, List.append_assoc]

theorem mentioned_of_accepts {start name key : String} (plainStart : UnmarkedText start)
    (plainName : UnmarkedText name)
    (accepted : (KeyPattern.mentioning start name).accepts key = true) :
    MentionedBehind start name key := by
  obtain ⟨front, passed, found, rest, text, one, named⟩ :=
    KeyPattern.accepts_mentioning_iff.mp accepted
  rw [eq_of_globMatches plainStart.1 plainStart.2 one,
    eq_of_globMatches plainName.1 plainName.2 named] at text
  refine ⟨_, text, passed, rest, ?_⟩
  rw [List.append_assoc]

variable {Outside : Type}

/-- A key that carries a name and mentions it in lower case is accepted by the pattern, and an
invalidation by that name deletes its entry. Without marks in the start and the name no other key is
accepted, however its segments spell the name. -/
theorem sweep_reaches_names_in_lower_case (setup : Setup Outside)
    (scanning : setup.caching.patternInvalidation = true) (session : Session (Site Outside))
    (target : Invalidation) {name : String} (listed : name ∈ target.names) {key : String}
    (carried : namesSegment key setup.caching.keyStart name = true) :
    let start := setup.caching.keyStart
    let pattern := KeyPattern.mentioning start (Text.lower name)
    (MentionedBehind start (Text.lower name) key → pattern.accepts key = true) ∧
      (UnmarkedText start → UnmarkedText (Text.lower name) → pattern.accepts key = true →
        MentionedBehind start (Text.lower name) key) ∧
      (pattern.accepts key = true → ∀ entry, (key, entry) ∈ session.entries →
        entry.isLive (setup.clock session.world.outside) = true →
          ∀ other, (key, other) ∉ (setup.cache.invalidate target session).2.entries) := by
  intro start pattern
  refine ⟨accepts_of_mentioned, mentioned_of_accepts, ?_⟩
  intro accepted entry stored live other stayed
  have keys : key ∈ session.world.store.keys (setup.clock session.world.outside) (some pattern) :=
    MemoryCache.mem_keys.mpr ⟨⟨entry, stored, live⟩, accepted⟩
  have swept : key ∈ (setup.cache.sweep target.names session).1 :=
    (setup.mem_sweep session).mpr ⟨name, listed, keys, namesSegment_iff.mp carried⟩
  have reached : key ∈ setup.reached target session :=
    (setup.mem_reached session target).mpr (.inr ⟨scanning, swept⟩)
  exact ((setup.mem_invalidate session target).mp stayed).2 reached

def spelledSession (key : String) : Session (Site Nat) :=
  Step.run countingSetup (Setup.opening 0 2 none) [.put key .null none]

/-- The name may be given in any case. -/
theorem lower_case_list_is_swept :
    namesSegment "quarry:users:list" "quarry:" "USERS" = true ∧
      (KeyPattern.mentioning "quarry:" (Text.lower "USERS")).accepts "quarry:users:list" = true ∧
      (spelledSession "quarry:users:list").entries.map Prod.fst = ["quarry:users:list"] ∧
      ∀ entry, ("quarry:users:list", entry) ∉ (countingSetup.cache.invalidate
        { tables := ["USERS"] } (spelledSession "quarry:users:list")).2.entries := by
  have carried : namesSegment "quarry:users:list" "quarry:" "USERS" = true := by decide +kernel
  obtain ⟨listing, _, deletes⟩ := sweep_reaches_names_in_lower_case countingSetup rfl
    (spelledSession "quarry:users:list") { tables := ["USERS"] } List.mem_cons_self carried
  have accepted := listing ⟨"users:list".toList, by decide, [], ":list".toList, by decide +kernel⟩
  exact ⟨carried, accepted, by decide +kernel, deletes accepted _ List.mem_cons_self rfl⟩

/-- The key carries the name, yet the pattern refuses it and the entry outlives the invalidation. -/
theorem capital_users_escape_the_sweep :
    namesSegment "quarry:Users" "quarry:" "users" = true ∧
      (KeyPattern.mentioning "quarry:" (Text.lower "users")).accepts "quarry:Users" = false ∧
      (countingSetup.cache.invalidate { tables := ["users"] } (spelledSession "quarry:Users")).1 = 0 ∧
      (countingSetup.cache.invalidate { tables := ["users"] }
        (spelledSession "quarry:Users")).2.entries.map Prod.fst = ["quarry:Users"] := by
  decide +kernel

end BoundQuery
