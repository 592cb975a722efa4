import BoundQuery.Cache.Pattern
import Mathlib.Data.List.Forall2

/-!
What a pattern accepts. Each of its marks takes up a stretch of the key, from left to right: a star
any stretch, a question mark a single character, and every other mark itself.
-/

set_option autoImplicit false

namespace BoundQuery

theorem anyEnding_iff {test : List Char → Bool} {text : List Char} :
    anyEnding test text = true ↔ ∃ passed ending, text = passed ++ ending ∧ test ending = true := by
  induction text with
  | nil =>
      constructor
      · intro holds
        exact ⟨[], [], rfl, holds⟩
      · rintro ⟨passed, ending, split, holds⟩
        rw [(List.append_eq_nil_iff.mp split.symm).2] at holds
        exact holds
  | cons char rest ih =>
      rw [anyEnding, Bool.or_eq_true, ih]
      constructor
      · rintro (whole | ⟨passed, ending, split, holds⟩)
        · exact ⟨[], char :: rest, rfl, whole⟩
        · exact ⟨char :: passed, ending, congrArg (char :: ·) split, holds⟩
      · rintro ⟨passed, ending, split, holds⟩
        cases passed with
        | nil =>
            left
            rwa [← List.nil_append ending, ← split] at holds
        | cons first others => exact .inr ⟨others, ending, (List.cons.inj split).2, holds⟩

theorem globMatches_cons (mark : Char) (pattern text : List Char) :
    globMatches (mark :: pattern) text =
      if mark == '*' then anyEnding (globMatches pattern) text
      else
        match text with
        | [] => false
        | char :: rest => (mark == '?' || mark == char) && globMatches pattern rest :=
  rfl

theorem globMatches_star {pattern text : List Char} :
    globMatches ('*' :: pattern) text = true ↔
      ∃ passed ending, text = passed ++ ending ∧ globMatches pattern ending = true := by
  rw [globMatches_cons, if_pos (by decide), anyEnding_iff]

theorem globMatches_mark {mark : Char} (single : mark ≠ '*') {pattern text : List Char} :
    globMatches (mark :: pattern) text = true ↔
      ∃ char rest, text = char :: rest ∧ (mark = '?' ∨ mark = char) ∧
        globMatches pattern rest = true := by
  rw [globMatches_cons, if_neg (by simpa using single)]
  cases text with
  | nil => simp
  | cons char rest => simp

theorem globMatches_append (first : List Char) {second text : List Char} :
    globMatches (first ++ second) text = true ↔
      ∃ front back, text = front ++ back ∧ globMatches first front = true ∧
        globMatches second back = true := by
  induction first generalizing text with
  | nil =>
      constructor
      · intro matched
        exact ⟨[], text, rfl, rfl, matched⟩
      · rintro ⟨front, back, split, empty, matched⟩
        rw [globMatches, List.isEmpty_iff] at empty
        rw [split, empty]
        exact matched
  | cons mark rest ih =>
      by_cases star : mark = '*'
      · subst star
        rw [List.cons_append, globMatches_star]
        constructor
        · rintro ⟨passed, ending, split, matched⟩
          obtain ⟨front, back, further, one, two⟩ := ih.mp matched
          refine ⟨passed ++ front, back, ?_, globMatches_star.mpr ⟨passed, front, rfl, one⟩, two⟩
          rw [split, further, List.append_assoc]
        · rintro ⟨front, back, split, one, two⟩
          obtain ⟨passed, ending, inside, matched⟩ := globMatches_star.mp one
          refine ⟨passed, ending ++ back, ?_, ih.mpr ⟨ending, back, rfl, matched, two⟩⟩
          rw [split, inside, List.append_assoc]
      · rw [List.cons_append, globMatches_mark star]
        constructor
        · rintro ⟨char, text, rfl, fits, matched⟩
          obtain ⟨front, back, rfl, one, two⟩ := ih.mp matched
          exact ⟨char :: front, back, rfl,
            (globMatches_mark star).mpr ⟨char, front, rfl, fits, one⟩, two⟩
        · rintro ⟨front, back, rfl, one, two⟩
          obtain ⟨char, others, rfl, fits, matched⟩ := (globMatches_mark star).mp one
          exact ⟨char, others ++ back, rfl, fits, ih.mpr ⟨others, back, rfl, matched, two⟩⟩

theorem globMatches_self (text : List Char) : globMatches text text = true := by
  induction text with
  | nil => rfl
  | cons char rest ih =>
      by_cases star : char = '*'
      · subst star
        exact globMatches_star.mpr ⟨['*'], rest, rfl, ih⟩
      · exact (globMatches_mark star).mpr ⟨char, rest, rfl, .inr rfl, ih⟩

theorem eq_of_globMatches {pattern : List Char} (star : '*' ∉ pattern) (question : '?' ∉ pattern) :
    ∀ {text : List Char}, globMatches pattern text = true → text = pattern := by
  induction pattern with
  | nil =>
      intro text matched
      rwa [globMatches, List.isEmpty_iff] at matched
  | cons mark rest ih =>
      rw [List.mem_cons, not_or] at star question
      intro text matched
      obtain ⟨char, others, rfl, fits, further⟩ := (globMatches_mark (Ne.symm star.1)).mp matched
      rw [ih star.2 question.2 further, fits.resolve_left (Ne.symm question.1)]

namespace KeyPattern

/-- The stretches that one mark takes up. -/
inductive Fits : Char → List Char → Prop where
  | star (stretch : List Char) : Fits '*' stretch
  | single (char : Char) : Fits '?' [char]
  | own {mark : Char} (star : mark ≠ '*') (single : mark ≠ '?') : Fits mark [mark]

/-- The text consists of one stretch for each mark, in the order of the marks. -/
def CutFor (pattern text : List Char) : Prop :=
  ∃ stretches : List (List Char), text = stretches.flatten ∧ List.Forall₂ Fits pattern stretches

theorem cutFor_nil {text : List Char} : CutFor [] text ↔ text = [] := by
  constructor
  · rintro ⟨stretches, whole, fits⟩
    cases fits
    exact whole
  · rintro rfl
    exact ⟨[], rfl, .nil⟩

theorem cutFor_cons {mark : Char} {pattern text : List Char} :
    CutFor (mark :: pattern) text ↔
      ∃ stretch rest, text = stretch ++ rest ∧ Fits mark stretch ∧ CutFor pattern rest := by
  constructor
  · rintro ⟨stretches, whole, fits⟩
    cases fits with
    | cons first others => exact ⟨_, _, whole, first, _, rfl, others⟩
  · rintro ⟨stretch, _, whole, first, stretches, rfl, others⟩
    exact ⟨stretch :: stretches, whole, .cons first others⟩

theorem globMatches_cons_iff {mark : Char} {pattern text : List Char} :
    globMatches (mark :: pattern) text = true ↔
      ∃ stretch rest, text = stretch ++ rest ∧ Fits mark stretch ∧
        globMatches pattern rest = true := by
  by_cases star : mark = '*'
  · subst star
    rw [globMatches_star]
    constructor
    · rintro ⟨passed, ending, split, matched⟩
      exact ⟨passed, ending, split, .star passed, matched⟩
    · rintro ⟨passed, ending, split, _, matched⟩
      exact ⟨passed, ending, split, matched⟩
  · rw [globMatches_mark star]
    constructor
    · rintro ⟨char, rest, split, fits, matched⟩
      refine ⟨[char], rest, split, ?_, matched⟩
      by_cases single : mark = '?'
      · rw [single]
        exact .single char
      · rw [← fits.resolve_left single]
        exact .own star single
    · rintro ⟨stretch, rest, split, fits, matched⟩
      cases fits with
      | star => exact absurd rfl star
      | single char => exact ⟨char, rest, split, .inl rfl, matched⟩
      | own => exact ⟨mark, rest, split, .inr rfl, matched⟩

/-- A pattern accepts the keys that can be cut for it, and no others. -/
theorem accepts_iff_cutFor (pattern : KeyPattern) (key : String) :
    pattern.accepts key = true ↔ CutFor pattern.text.toList key.toList := by
  unfold accepts
  generalize pattern.text.toList = marks, key.toList = text
  induction marks generalizing text with
  | nil => rw [cutFor_nil, globMatches, List.isEmpty_iff]
  | cons mark rest ih =>
      rw [globMatches_cons_iff, cutFor_cons]
      simp only [ih]

example : (⟨"*.caf?*s"⟩ : KeyPattern).accepts "eu.menu.caf\u00E9-tables" = true := by
  decide +kernel

end KeyPattern

/-- Behind the start comes anything, then the name, then anything; marks in either count as such. -/
theorem KeyPattern.accepts_mentioning_iff {start name key : String} :
    (mentioning start name).accepts key = true ↔
      ∃ front passed found rest, key.toList = front ++ (passed ++ (found ++ rest)) ∧
        globMatches start.toList front = true ∧ globMatches name.toList found = true := by
  have text : (mentioning start name).text.toList =
      start.toList ++ ('*' :: (name.toList ++ ['*'])) := by
    simp [mentioning]
  unfold accepts
  rw [text, globMatches_append]
  constructor
  · rintro ⟨front, behind, split, one, two⟩
    obtain ⟨passed, further, behindSplit, matched⟩ := globMatches_star.mp two
    obtain ⟨found, rest, furtherSplit, named, _⟩ := (globMatches_append _).mp matched
    refine ⟨front, passed, found, rest, ?_, one, named⟩
    rw [split, behindSplit, furtherSplit]
  · rintro ⟨front, passed, found, rest, split, one, named⟩
    have all : globMatches ['*'] rest = true :=
      globMatches_star.mpr ⟨rest, [], (List.append_nil rest).symm, rfl⟩
    have named : globMatches (name.toList ++ ['*']) (found ++ rest) = true :=
      (globMatches_append _).mpr ⟨found, rest, rfl, named, all⟩
    exact ⟨front, passed ++ (found ++ rest), split, one,
      globMatches_star.mpr ⟨passed, found ++ rest, rfl, named⟩⟩

end BoundQuery
