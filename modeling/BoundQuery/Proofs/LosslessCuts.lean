import BoundQuery.Proofs.Quoting
import BoundQuery.Statement.Fragment
import Mathlib.Data.List.Chain
import Mathlib.Data.List.SplitBy

/-!
Cutting raw SQL at its slots loses nothing. A cut is told by its parts and by how they are written:
with the question marks of a text doubled, and a single one for each slot. Every text has a cut,
with a slot for each run of question marks of odd length, and it has no other one; so whatever holds
of its cut holds of what it is read as.
-/

set_option autoImplicit false

namespace BoundQuery

namespace Text

/-- The longest stretches of one and the same character, from left to right. -/
def runs (text : List Char) : List (List Char) :=
  text.splitBy (· == ·)

theorem runs_other {char : Char} {rest : List Char} (other : rest.head? ≠ some char) :
    runs (char :: rest) = [char] :: runs rest := by
  refine List.splitBy_append (l := [char]) ?_
  intro first own second behind
  cases own
  refine beq_eq_false_iff_ne.mpr ?_
  rintro rfl
  exact other behind

theorem runs_same (char : Char) (rest : List Char) :
    ∃ run others, runs (char :: rest) = (char :: run) :: others ∧
      runs (char :: char :: rest) = (char :: char :: run) :: others := by
  obtain ⟨whole, filled, equal, apart⟩ :=
    List.splitBy_eq_iff.mp (rfl : runs (char :: rest) = runs (char :: rest))
  cases split : runs (char :: rest) with
  | nil =>
      rw [split] at whole
      cases whole
  | cons first others =>
      rw [split] at whole filled equal apart
      cases first with
      | nil => exact absurd List.mem_cons_self filled
      | cons head run =>
          cases (List.cons.inj whole).1
          refine ⟨run, others, rfl, List.splitBy_eq_iff.mpr ⟨congrArg _ whole, ?_, ?_, ?_⟩⟩
          · simpa using filled
          · simpa using equal
          · rw [List.isChain_cons] at apart ⊢
            simpa using apart

end Text

namespace Part

/-- A run of question marks of which one is left over when they are taken in pairs. -/
def isOddMarks (run : List Char) : Bool :=
  run.head? == some '?' && run.length % 2 == 1

def oddRuns (text : List Char) : Nat :=
  (Text.runs text).countP isOddMarks

theorem oddRuns_pair (rest : List Char) : oddRuns ('?' :: '?' :: rest) = oddRuns rest := by
  unfold oddRuns
  by_cases more : rest.head? = some '?'
  · obtain ⟨others, rfl⟩ := List.head?_eq_some_iff.mp more
    obtain ⟨run, behind, one, two⟩ := Text.runs_same '?' others
    obtain ⟨longer, _, same, three⟩ := Text.runs_same '?' ('?' :: others)
    cases two.symm.trans same
    have parity : isOddMarks ('?' :: '?' :: '?' :: run) = isOddMarks ('?' :: run) :=
      congrArg (fun left => true && left == 1) (Nat.add_mod_right (run.length + 1) 2)
    rw [three, one, List.countP_cons, List.countP_cons, parity]
  · obtain ⟨run, behind, one, two⟩ := Text.runs_same '?' rest
    rw [Text.runs_other more] at one
    cases one
    rw [two]
    rfl

theorem oddRuns_single {rest : List Char} (single : rest.head? ≠ some '?') :
    oddRuns ('?' :: rest) = oddRuns rest + 1 := by
  unfold oddRuns
  rw [Text.runs_other single, List.countP_cons_of_pos rfl]

theorem oddRuns_other {char : Char} (other : char ≠ '?') (rest : List Char) :
    oddRuns (char :: rest) = oddRuns rest := by
  have neither (run : List Char) : ¬isOddMarks (char :: run) = true := by
    simp [isOddMarks, other]
  unfold oddRuns
  by_cases more : rest.head? = some char
  · obtain ⟨others, rfl⟩ := List.head?_eq_some_iff.mp more
    obtain ⟨run, behind, one, two⟩ := Text.runs_same char others
    rw [one, two, List.countP_cons_of_neg (neither _), List.countP_cons_of_neg (neither _)]
  · rw [Text.runs_other more, List.countP_cons_of_neg (neither _)]

theorem tokens_doubled (chars rest : List Char) :
    tokens (doubled '?' chars ++ rest) = chars.map some ++ tokens rest := by
  induction chars with
  | nil => rfl
  | cons char others ih =>
      rw [doubled_cons, List.append_assoc, List.map_cons, List.cons_append, ← ih]
      by_cases mark : char = '?'
      · subst mark
        exact tokens_pair _
      · rw [if_neg (by simpa using mark)]
        exact tokens_other mark _

theorem gather_append (reversed chars : List Char) (rest : List (Option Char)) :
    gather reversed (chars.map some ++ rest) = gather (chars.reverse ++ reversed) rest := by
  induction chars generalizing reversed with
  | nil => rfl
  | cons char others ih =>
      rw [List.map_cons, List.cons_append, gather, ih, List.reverse_cons, List.append_assoc]
      rfl

theorem pending_reverse {text : String} (filled : text ≠ "") :
    pending text.toList.reverse = [sql text] := by
  cases chars : text.toList.reverse with
  | nil => exact absurd (by simpa using chars) filled
  | cons char others =>
      rw [pending, ← chars, List.reverse_reverse, String.ofList_toList]
      rintro ⟨⟩

/-! ### Cuts -/

/-- A part in raw SQL: the question marks of a text twice each, a slot as a single one. -/
def written : Part → List Char
  | sql text => doubled '?' text.toList
  | slot => ['?']

/-- No text is empty and no two of them stand side by side, no question mark follows a slot, and the
parts are written as the raw text. -/
structure CutOf (raw : List Char) (parts : List Part) : Prop where
  filled : ∀ part ∈ parts, part ≠ sql ""
  apart : parts.IsChain (fun first second => first.isSlot = true ∨ second.isSlot = true)
  ended : ∀ behind, slot :: behind <:+ parts → (behind.flatMap written).head? ≠ some '?'
  whole : parts.flatMap written = raw

namespace CutOf

variable {raw : List Char} {parts : List Part}

theorem nil : CutOf [] [] where
  filled := by simp
  apart := .nil
  ended := by simp
  whole := rfl

theorem slot_cons (single : raw.head? ≠ some '?') (cut : CutOf raw parts) :
    CutOf ('?' :: raw) (slot :: parts) where
  filled := List.forall_mem_cons.mpr ⟨nofun, cut.filled⟩
  apart := List.isChain_cons.mpr ⟨fun _ _ => .inl rfl, cut.apart⟩
  ended := by
    intro behind ending
    obtain same | further := List.suffix_cons_iff.mp ending
    · rw [(List.cons.inj same).2, cut.whole]
      exact single
    · exact cut.ended behind further
  whole := congrArg ('?' :: ·) cut.whole

theorem tail {part : Part} {rest : List Part} (cut : CutOf raw (part :: rest)) :
    CutOf (rest.flatMap written) rest where
  filled := (List.forall_mem_cons.mp cut.filled).2
  apart := (List.isChain_cons.mp cut.apart).2
  ended behind ending := cut.ended behind (ending.trans (List.suffix_cons _ _))
  whole := rfl

theorem sql_cons {text : String} (filled : text ≠ "") (cut : CutOf raw parts)
    (slots : ∀ part ∈ parts.head?, part.isSlot = true) :
    CutOf (doubled '?' text.toList ++ raw) (sql text :: parts) where
  filled := List.forall_mem_cons.mpr ⟨by simpa using filled, cut.filled⟩
  apart := List.isChain_cons.mpr ⟨fun part first => .inr (slots part first), cut.apart⟩
  ended := by
    intro behind ending
    obtain ⟨⟨⟩⟩ | further := List.suffix_cons_iff.mp ending
    exact cut.ended behind further
  whole := congrArg (doubled '?' text.toList ++ ·) cut.whole

theorem slots_behind {text : String} {rest : List Part} (cut : CutOf raw (sql text :: rest)) :
    ∀ part ∈ rest.head?, part.isSlot = true := by
  intro part first
  exact ((List.isChain_cons.mp cut.apart).1 part first).resolve_left (by simp [isSlot])

theorem exists_longer (cut : CutOf raw parts) (char : Char) :
    ∃ longer, CutOf (doubled '?' [char] ++ raw) longer ∧
      longer.countP isSlot = parts.countP isSlot := by
  have filled (rest : List Char) : String.ofList (char :: rest) ≠ "" := by simp
  have fresh (slots : ∀ part ∈ parts.head?, part.isSlot = true) :
      CutOf (doubled '?' [char] ++ raw) (sql (String.ofList [char]) :: parts) := by
    have further := cut.sql_cons (filled []) slots
    rwa [String.toList_ofList] at further
  cases parts with
  | nil => exact ⟨_, fresh (by simp), rfl⟩
  | cons part rest =>
      cases part with
      | slot => exact ⟨_, fresh (by simp [isSlot]), rfl⟩
      | sql text =>
          refine ⟨sql (String.ofList (char :: text.toList)) :: rest, ?_, rfl⟩
          have further := cut.tail.sql_cons (filled text.toList) cut.slots_behind
          rw [String.toList_ofList, doubled_cons] at further
          rw [← cut.whole]
          simpa [doubled, written] using further

end CutOf

theorem exists_cutOf (raw : List Char) :
    ∃ parts, CutOf raw parts ∧ parts.countP isSlot = oddRuns raw := by
  induction raw using marks_induction with
  | nil => exact ⟨[], .nil, rfl⟩
  | pair rest ih =>
      obtain ⟨parts, cut, slots⟩ := ih
      obtain ⟨longer, further, same⟩ := cut.exists_longer '?'
      exact ⟨longer, further, same.trans (slots.trans (oddRuns_pair rest).symm)⟩
  | single rest alone ih =>
      obtain ⟨parts, cut, slots⟩ := ih
      refine ⟨slot :: parts, cut.slot_cons alone, ?_⟩
      rw [List.countP_cons_of_pos rfl, slots, oddRuns_single alone]
  | other char rest differs ih =>
      obtain ⟨parts, cut, slots⟩ := ih
      obtain ⟨longer, further, same⟩ := cut.exists_longer char
      rw [doubled_cons, if_neg (by simpa using differs)] at further
      exact ⟨longer, further, same.trans (slots.trans (oddRuns_other differs rest).symm)⟩

namespace CutOf

variable {raw : List Char}

theorem tokens_eq {rest : List Part} (cut : CutOf raw (slot :: rest)) :
    tokens raw = none :: tokens (rest.flatMap written) := by
  rw [← cut.whole]
  exact tokens_single (cut.ended rest List.suffix_rfl)

/-- The cut of a text is what the text is read as. -/
theorem eq_ofRaw {parts : List Part} (cut : CutOf raw parts) : parts = ofRaw raw := by
  induction parts generalizing raw with
  | nil =>
      rw [← cut.whole]
      rfl
  | cons part rest ih =>
      have behind := ih cut.tail
      cases part with
      | slot =>
          rw [ofRaw, cut.tokens_eq]
          exact congrArg (slot :: ·) behind
      | sql text =>
          have held := pending_reverse (fun empty =>
            cut.filled _ List.mem_cons_self (congrArg sql empty))
          have first : ofRaw raw = gather text.toList.reverse (tokens (rest.flatMap written)) := by
            rw [← cut.whole, List.flatMap_cons, written, ofRaw, tokens_doubled, gather_append,
              List.append_nil]
          rw [first]
          -- Nothing or a slot is behind the text, so no further character is gathered into it.
          cases rest with
          | nil => exact held.symm
          | cons next others =>
              have last := cut.slots_behind next rfl
              cases next with
              | sql second => cases last
              | slot =>
                  rw [ofRaw, cut.tail.tokens_eq] at behind
                  rw [cut.tail.tokens_eq, gather, held, behind]
                  rfl

end CutOf

end Part

/-- Cut at its slots, a raw text has neither an empty text nor two texts side by side; written back,
it is the same as before; and it has a slot for each run of question marks of odd length. -/
theorem raw_text_is_cut_without_loss (raw : List Char) :
    (∀ part ∈ Part.ofRaw raw, part ≠ .sql "") ∧
      (Part.ofRaw raw).IsChain (fun first second => first.isSlot = true ∨ second.isSlot = true) ∧
      (Part.ofRaw raw).flatMap Part.written = raw ∧
      (Part.ofRaw raw).countP Part.isSlot = (Text.runs raw).countP Part.isOddMarks := by
  obtain ⟨parts, cut, slots⟩ := Part.exists_cutOf raw
  rw [← cut.eq_ofRaw]
  exact ⟨cut.filled, cut.apart, cut.whole, slots⟩

/-- Of five question marks four make two literal ones, and the last is a slot. -/
example : Part.ofRaw "????? = ?".toList = [.sql "??", .slot, .sql " = ", .slot] := by
  rfl

end BoundQuery
