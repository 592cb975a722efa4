import BoundQuery.Cache.Tables
import BoundQuery.Identifier
import Mathlib.Data.List.Infix
import Mathlib.Data.List.TakeWhile

/-!
Where a statement names a table. A plain name that is written behind `FROM` or `JOIN`, quoted as any
of the built-in dialects quote it, is found by its last part, whatever stands before and behind; the
same name without quotes is found in the same way.
-/

set_option autoImplicit false

namespace BoundQuery

theorem code_of_isNamePart {char : Char} (part : Text.isNamePart char = true) :
    (48 ≤ char.toNat ∧ char.toNat ≤ 57) ∨ (65 ≤ char.toNat ∧ char.toNat ≤ 90) ∨
      (97 ≤ char.toNat ∧ char.toNat ≤ 122) ∨ char.toNat = 95 := by
  change ((decide ('A'.val ≤ char.val ∧ char.val ≤ 'Z'.val) ||
    'a'.val ≤ char.val && char.val ≤ 'z'.val || '0'.val ≤ char.val && char.val ≤ '9'.val) ||
      char == '_') = true at part
  simp only [Bool.or_eq_true, Bool.and_eq_true, decide_eq_true_eq, beq_iff_eq,
    UInt32.le_iff_toNat_le] at part
  have code : char.val.toNat = char.toNat := rfl
  have bounds : 'A'.val.toNat = 65 ∧ 'Z'.val.toNat = 90 ∧ 'a'.val.toNat = 97 ∧
      'z'.val.toNat = 122 ∧ '0'.val.toNat = 48 ∧ '9'.val.toNat = 57 := by decide
  rcases part with ((upper | lower) | digit) | underscore
  · omega
  · omega
  · omega
  · right
    right
    right
    rw [underscore]
    rfl

theorem ne_of_isNamePart {char : Char} (part : Text.isNamePart char = true) (mark : Char)
    (other : Text.isNamePart mark = false) : char ≠ mark := by
  intro same
  rw [same, other] at part
  cases part

theorem isTableQuote_of_isNamePart {char : Char} (part : Text.isNamePart char = true) :
    isTableQuote char = false := by
  have back := ne_of_isNamePart part '\x60' (by decide)
  have double := ne_of_isNamePart part '"' (by decide)
  have left := ne_of_isNamePart part '[' (by decide)
  have right := ne_of_isNamePart part ']' (by decide)
  simp [isTableQuote, isOpeningQuote, isClosingQuote, back, double, left, right]

theorem isTableChar_of_isNamePart {char : Char} (part : Text.isNamePart char = true) :
    isTableChar char = true := by
  unfold isTableChar
  rw [part]
  rfl

theorem isNamePart_of_isNameStart {char : Char} (start : Text.isNameStart char = true) :
    Text.isNamePart char = true := by
  unfold Text.isNameStart at start
  unfold Text.isNamePart Char.isAlphanum
  rw [Bool.or_eq_true] at start
  rcases start with letter | underscore
  · rw [letter]
    rfl
  · rw [underscore]
    exact Bool.or_true _

theorem isNamePart_of_isPlainPart {part : List Char} (plain : Identifier.isPlainPart part = true) :
    ∀ char ∈ part, Text.isNamePart char = true := by
  cases part with
  | nil => cases plain
  | cons first tail =>
      have both : Text.isNameStart first = true ∧ tail.all Text.isNamePart = true :=
        Bool.and_eq_true_iff.mp plain
      intro char member
      rcases List.mem_cons.mp member with rfl | later
      · exact isNamePart_of_isNameStart both.1
      · exact List.all_eq_true.mp both.2 char later

theorem lowerFrom_of_ascii (chars : List Char) :
    ∀ before : List Char, (∀ char ∈ chars, char.toNat < 128) →
      Text.lowerFrom before chars = chars.map Char.toLower := by
  induction chars with
  | nil => exact fun _ _ => rfl
  | cons char rest ih =>
      intro before ascii
      have small := ascii char List.mem_cons_self
      have others := ih (char :: before)
        (fun other member => ascii other (List.mem_cons_of_mem _ member))
      have noSigma : ¬(char.toNat == 0x3A3) = true := by
        rw [beq_iff_eq]
        omega
      simp only [Text.lowerFrom, if_neg noSigma, Text.lowerChar, if_pos small, others]
      rfl

theorem lowerChars_of_ascii {chars : List Char} (ascii : ∀ char ∈ chars, char.toNat < 128) :
    Text.lowerChars chars = chars.map Char.toLower :=
  lowerFrom_of_ascii chars [] ascii

theorem toNat_toLower (char : Char) : char.toLower.toNat =
    if 65 ≤ char.toNat ∧ char.toNat ≤ 90 then char.toNat + 32 else char.toNat := by
  have code : char.val.toNat = char.toNat := rfl
  have bounds : 'A'.val.toNat = 65 ∧ 'Z'.val.toNat = 90 ∧ ('a'.val - 'A'.val).toNat = 32 := by
    decide
  by_cases upper : char.val ≥ 'A'.val ∧ char.val ≤ 'Z'.val
  · have range : 65 ≤ char.toNat ∧ char.toNat ≤ 90 := by
      simp only [ge_iff_le, UInt32.le_iff_toNat_le] at upper
      omega
    have sum : (char.val + ('a'.val - 'A'.val)).toNat = char.toNat + 32 := by
      rw [UInt32.toNat_add]
      omega
    rw [if_pos range, ← sum]
    unfold Char.toLower
    rw [dif_pos upper]
    rfl
  · have range : ¬(65 ≤ char.toNat ∧ char.toNat ≤ 90) := by
      simp only [ge_iff_le, UInt32.le_iff_toNat_le] at upper
      omega
    rw [if_neg range]
    unfold Char.toLower
    rw [dif_neg upper]

theorem toLower_lt {char : Char} : char.toLower.toNat < 128 ↔ char.toNat < 128 := by
  rw [toNat_toLower]
  split
  · omega
  · rfl

theorem toLower_idem (char : Char) : char.toLower.toLower = char.toLower := by
  apply Char.toNat_inj.mp
  rw [toNat_toLower char.toLower, toNat_toLower char]
  split
  · split
    · omega
    · omega
  · rfl

theorem ascii_of_sameLetters {left right : List Char}
    (same : left.map Char.toLower = right.map Char.toLower)
    (ascii : ∀ char ∈ right, char.toNat < 128) : ∀ char ∈ left, char.toNat < 128 := by
  intro char member
  have lowered : char.toLower ∈ right.map Char.toLower := by
    rw [← same]
    exact List.mem_map_of_mem member
  obtain ⟨other, there, equal⟩ := List.mem_map.mp lowered
  apply toLower_lt.mp
  rw [← equal]
  exact toLower_lt.mpr (ascii other there)

theorem map_toLower_idem (chars : List Char) :
    (chars.map Char.toLower).map Char.toLower = chars.map Char.toLower := by
  rw [List.map_map]
  apply List.map_congr_left
  intro char _
  exact toLower_idem char

/-! ### Written names -/

def around (marks : Option (Char × Char)) (part : List Char) : List Char :=
  match marks with
  | none => part
  | some (opening, closing) => opening :: part ++ [closing]

/-- A dotted name with each part between quotes, or bare. -/
def writtenName (marks : Option (Char × Char)) (parts : List (List Char)) : List Char :=
  ['.'].intercalate (parts.map (around marks))

def ProperMarks (marks : Option (Char × Char)) : Prop :=
  ∀ opening closing, marks = some (opening, closing) →
    isOpeningQuote opening = true ∧ isClosingQuote closing = true

theorem properMarks_none : ProperMarks none :=
  fun _ _ impossible => by cases impossible

/-- What follows cannot be taken for more of the name. -/
def NameEnds (rest : List Char) : Prop :=
  ∀ char, rest.head? = some char → isTableChar char = false ∧ isClosingQuote char = false

theorem nameEnds_nil : NameEnds [] :=
  fun _ impossible => by cases impossible

theorem isTableChar_of_isClosingQuote {char : Char} (closing : isClosingQuote char = true) :
    isTableChar char = false := by
  simp only [isClosingQuote, Bool.or_eq_true, beq_iff_eq] at closing
  rcases closing with (rfl | rfl) | rfl
  · decide
  · decide
  · decide

private theorem takeWhile_name {body rest : List Char}
    (inside : ∀ char ∈ body, isTableChar char = true)
    (ends : ∀ char, rest.head? = some char → isTableChar char = false) :
    (body ++ rest).takeWhile isTableChar = body ∧ (body ++ rest).dropWhile isTableChar = rest := by
  rw [List.takeWhile_append_of_pos inside, List.dropWhile_append_of_pos inside]
  cases rest with
  | nil => simp
  | cons char tail =>
      have stop := ends char rfl
      rw [List.takeWhile_cons_of_neg (by simp [stop]), List.dropWhile_cons_of_neg (by simp [stop])]
      simp

private theorem plainPart_cases {part : List Char} (plain : Identifier.isPlainPart part = true) :
    ∃ first tail, part = first :: tail ∧ Text.isNameStart first = true ∧
      isOpeningQuote first = false ∧ ∀ char ∈ tail, isTableChar char = true := by
  cases part with
  | nil => cases plain
  | cons first tail =>
      have both : Text.isNameStart first = true ∧ tail.all Text.isNamePart = true :=
        Bool.and_eq_true_iff.mp plain
      have quote := isTableQuote_of_isNamePart (isNamePart_of_isNameStart both.1)
      have opening : isOpeningQuote first = false := (Bool.or_eq_false_iff.mp quote).1
      refine ⟨first, tail, rfl, both.1, opening, ?_⟩
      intro char member
      exact isTableChar_of_isNamePart (List.all_eq_true.mp both.2 char member)

theorem namePart?_around {marks : Option (Char × Char)} {part rest : List Char}
    (proper : ProperMarks marks) (plain : Identifier.isPlainPart part = true)
    (ends : NameEnds rest) :
    namePart? (around marks part ++ rest) = some (around marks part, rest) := by
  obtain ⟨first, tail, rfl, start, bare, inside⟩ := plainPart_cases plain
  cases marks with
  | none =>
      obtain ⟨taken, behind⟩ := takeWhile_name inside (fun char head => (ends char head).1)
      have closing : (rest.take 1).filter isClosingQuote = [] := by
        cases rest with
        | nil => rfl
        | cons char more => simp [(ends char rfl).2]
      simp [namePart?, around, bare, start, taken, behind, closing]
  | some pair =>
      obtain ⟨opening, closing⟩ := pair
      obtain ⟨opens, closes⟩ := proper opening closing rfl
      have stops : ∀ char, (closing :: rest).head? = some char → isTableChar char = false := by
        intro char head
        cases head
        exact isTableChar_of_isClosingQuote closes
      obtain ⟨taken, behind⟩ := takeWhile_name inside stops
      simp [namePart?, around, opens, start, taken, behind, closes]

private theorem nameEnds_point (rest : List Char) : NameEnds ('.' :: rest) := by
  intro char head
  cases head
  decide

theorem furtherParts_written {marks : Option (Char × Char)} (proper : ProperMarks marks)
    {rest : List Char} (ends : NameEnds rest) (stop : rest.head? ≠ some '.')
    (parts : List (List Char)) :
    (∀ part ∈ parts, Identifier.isPlainPart part = true) →
    ∀ (steps : Nat) (last : List Char) (taken : Nat), parts.length ≤ steps →
      furtherParts steps last
          ((parts.flatMap (fun part => '.' :: around marks part)) ++ rest) taken =
        ((parts.map (around marks)).getLastD last,
          taken + (parts.flatMap (fun part => '.' :: around marks part)).length) := by
  induction parts with
  | nil =>
      intro _ steps last taken _
      cases steps with
      | zero => rfl
      | succ steps =>
          cases rest with
          | nil => rfl
          | cons char more =>
              have other : char ≠ '.' := fun same => stop (by rw [same]; rfl)
              unfold furtherParts
              split
              · rename_i equal
                exact absurd (List.cons.inj equal).1 other
              · rfl
  | cons part others ih =>
      intro plain steps last taken enough
      cases steps with
      | zero => cases enough
      | succ steps =>
          have own := plain part List.mem_cons_self
          have further := ih (fun other member => plain other (List.mem_cons_of_mem _ member))
            steps (around marks part) (taken + 1 + (around marks part).length)
            (Nat.le_of_succ_le_succ enough)
          have behind : NameEnds
              (others.flatMap (fun part => '.' :: around marks part) ++ rest) := by
            cases others with
            | nil => exact ends
            | cons next more => exact nameEnds_point _
          have step := namePart?_around proper own behind
          simp only [List.flatMap_cons, List.cons_append, List.append_assoc, furtherParts, step,
            further, List.map_cons, List.getLastD_cons, List.length_cons, List.length_append,
            Prod.mk.injEq, true_and]
          omega

theorem writtenName_cons (marks : Option (Char × Char)) (part : List Char)
    (others : List (List Char)) :
    writtenName marks (part :: others) =
      around marks part ++ others.flatMap (fun other => '.' :: around marks other) := by
  induction others generalizing part with
  | nil => simp [writtenName]
  | cons next more ih =>
      have further := ih next
      unfold writtenName at further ⊢
      rw [List.map_cons, List.map_cons, List.intercalate_cons_cons, ← List.map_cons, further]
      simp

private theorem length_le_flatMap (marks : Option (Char × Char)) (parts : List (List Char)) :
    parts.length ≤ (parts.flatMap (fun part => '.' :: around marks part)).length := by
  induction parts with
  | nil => exact Nat.le_refl 0
  | cons part others ih =>
      simp only [List.length_cons, List.flatMap_cons, List.cons_append, List.length_append]
      omega

/-- A written name is read to its end, and its last part is known. -/
theorem dottedName?_written {marks : Option (Char × Char)} (proper : ProperMarks marks)
    (part : List Char) (others : List (List Char))
    (plain : ∀ other ∈ part :: others, Identifier.isPlainPart other = true) {rest : List Char}
    (ends : NameEnds rest) (stop : rest.head? ≠ some '.') :
    dottedName? (writtenName marks (part :: others) ++ rest) =
      some (around marks (others.getLastD part),
        (writtenName marks (part :: others)).length) := by
  let behind := others.flatMap (fun other => '.' :: around marks other) ++ rest
  have further := fun other member => plain other (List.mem_cons_of_mem part member)
  have clear : NameEnds behind := by
    cases others with
    | nil => exact ends
    | cons next more => exact nameEnds_point _
  have first := namePart?_around proper (plain part List.mem_cons_self) clear
  have enough : others.length ≤ behind.length := by
    have each := length_le_flatMap marks others
    rw [List.length_append]
    omega
  have last := furtherParts_written proper ends stop others further behind.length
    (around marks part) (around marks part).length enough
  rw [List.getLastD_map] at last
  rw [writtenName_cons, List.append_assoc]
  unfold dottedName?
  rw [first, List.length_append]
  exact congrArg some last

theorem head_writtenName {marks : Option (Char × Char)} (proper : ProperMarks marks)
    {part : List Char} (others : List (List Char))
    (plain : Identifier.isPlainPart part = true) :
    ∃ char rest, writtenName marks (part :: others) = char :: rest ∧
      Text.isAsciiBlank char = false := by
  obtain ⟨first, tail, rfl, start, _, _⟩ := plainPart_cases plain
  rw [writtenName_cons]
  cases marks with
  | none =>
      refine ⟨first, _, rfl, ?_⟩
      have code := code_of_isNamePart (isNamePart_of_isNameStart start)
      have space := ne_of_isNamePart (isNamePart_of_isNameStart start) ' ' (by decide)
      simp only [Text.isAsciiBlank, Bool.or_eq_false_iff, Bool.and_eq_false_iff,
        decide_eq_false_iff_not, beq_eq_false_iff_ne]
      exact ⟨by omega, space⟩
  | some pair =>
      obtain ⟨opening, closing⟩ := pair
      refine ⟨opening, _, rfl, ?_⟩
      have opens := (proper opening closing rfl).1
      simp only [isOpeningQuote, Bool.or_eq_true, beq_iff_eq] at opens
      rcases opens with (rfl | rfl) | rfl
      · decide
      · decide
      · decide

def readWords : List (List Char) :=
  ["FROM".toList, "JOIN".toList]

private def nameBehind (keyword chars : List Char) : Option (List Char × Nat) :=
  let behind := chars.drop keyword.length
  let blanks := behind.takeWhile Text.isAsciiBlank
  if blanks.isEmpty then none
  else
    (dottedName? (behind.drop blanks.length)).map
      (fun found => (found.1, keyword.length + blanks.length + found.2))

private theorem tableAt?_eq (chars : List Char) :
    tableAt? chars = tableKeywords.findSome? (fun keyword =>
      if Text.startsIgnoringCase keyword chars then nameBehind keyword chars else none) :=
  rfl

theorem startsIgnoringCase_append {start word : List Char} (short : start.length ≤ word.length)
    (rest : List Char) :
    Text.startsIgnoringCase start (word ++ rest) =
      (start.map Char.toLower == (word.map Char.toLower).take start.length) := by
  unfold Text.startsIgnoringCase Text.equalsIgnoringCase
  rw [List.take_append_of_le_length short, List.map_take]

theorem tableAt?_spelled {marks : Option (Char × Char)} (proper : ProperMarks marks)
    {word gap : List Char} (keyword : word.map Char.toLower ∈ tableKeywords)
    (blank : ∀ char ∈ gap, Text.isAsciiBlank char = true) (some : gap ≠ []) (part : List Char)
    (others : List (List Char))
    (plain : ∀ other ∈ part :: others, Identifier.isPlainPart other = true) {rest : List Char}
    (ends : NameEnds rest) (stop : rest.head? ≠ Option.some '.') :
    tableAt? (word ++ (gap ++ (writtenName marks (part :: others) ++ rest))) =
      Option.some (around marks (others.getLastD part),
        word.length + gap.length + (writtenName marks (part :: others)).length) := by
  obtain ⟨char, tail, begins, visible⟩ :=
    head_writtenName proper others (plain part List.mem_cons_self)
  have named := dottedName?_written proper part others plain ends stop
  have blanks : (gap ++ (writtenName marks (part :: others) ++ rest)).takeWhile
      Text.isAsciiBlank = gap := by
    rw [List.takeWhile_append_of_pos blank, begins, List.cons_append,
      List.takeWhile_cons_of_neg (by simp [visible]), List.append_nil]
  let text := word ++ (gap ++ (writtenName marks (part :: others) ++ rest))
  let attempt := fun keyword : List Char =>
    if Text.startsIgnoringCase keyword text then nameBehind keyword text else none
  have long : (word.map Char.toLower).length = word.length := List.length_map _
  have own : attempt (word.map Char.toLower) = Option.some (around marks (others.getLastD part),
      word.length + gap.length + (writtenName marks (part :: others)).length) := by
    have starts : Text.startsIgnoringCase (word.map Char.toLower) text = true := by
      rw [startsIgnoringCase_append long.le, long, ← long, List.take_length, map_toLower_idem,
        beq_self_eq_true]
    simp only [attempt, starts, if_true, nameBehind, text, long, List.drop_left, blanks,
      List.isEmpty_eq_false_iff.mpr some, Bool.false_eq_true, if_false, named, Option.map_some]
  have passed {start : List Char} (short : start.length ≤ (word.map Char.toLower).length)
      (differs : (start.map Char.toLower ==
        (word.map Char.toLower).take start.length) = false) : attempt start = none := by
    have other : Text.startsIgnoringCase start text = false := by
      rw [startsIgnoringCase_append (short.trans long.le), differs]
    simp only [attempt, other, Bool.false_eq_true, if_false]
  rw [tableAt?_eq]
  refine List.findSome?_eq_some_iff.mpr ?_
  unfold tableKeywords at keyword ⊢
  simp only [List.mem_cons, List.not_mem_nil, or_false] at keyword
  rcases keyword with lower | lower | lower | lower
  all_goals rw [lower] at own passed
  · exact ⟨[], _, _, rfl, own, by simp⟩
  · refine ⟨["from".toList], _, _, rfl, own, ?_⟩
    simp only [List.mem_singleton, forall_eq]
    exact passed (by decide) (by decide)
  · refine ⟨["from".toList, "join".toList], _, _, rfl, own, ?_⟩
    simp only [List.mem_cons, List.not_mem_nil, or_false, forall_eq_or_imp, forall_eq]
    exact ⟨passed (by decide) (by decide), passed (by decide) (by decide)⟩
  · refine ⟨["from".toList, "join".toList, "into".toList], _, _, rfl, own, ?_⟩
    simp only [List.mem_cons, List.not_mem_nil, or_false, forall_eq_or_imp, forall_eq]
    exact ⟨passed (by decide) (by decide), passed (by decide) (by decide),
      passed (by decide) (by decide)⟩

theorem tableAt?_written {marks : Option (Char × Char)} (proper : ProperMarks marks)
    {word : List Char} (keyword : word ∈ readWords) (part : List Char)
    (others : List (List Char))
    (plain : ∀ other ∈ part :: others, Identifier.isPlainPart other = true) {rest : List Char}
    (ends : NameEnds rest) (stop : rest.head? ≠ some '.') :
    tableAt? (word ++ ' ' :: (writtenName marks (part :: others) ++ rest)) =
      some (around marks (others.getLastD part),
        5 + (writtenName marks (part :: others)).length) := by
  have spelled : ∀ word ∈ readWords, word.map Char.toLower ∈ tableKeywords ∧ word.length = 4 := by
    decide
  obtain ⟨lower, four⟩ := spelled word keyword
  have blank : ∀ char ∈ [' '], Text.isAsciiBlank char = true :=
    List.forall_mem_singleton.mpr rfl
  have found := tableAt?_spelled proper lower blank (List.cons_ne_nil _ _) part others plain ends
    stop
  rw [four] at found
  exact found

theorem space_not_mem {test : Char → Bool} (chars : List Char) (refused : test ' ' = false)
    (inside : ∀ char ∈ chars, test char = true) : ' ' ∉ chars := by
  intro member
  rw [inside ' ' member] at refused
  cases refused

private theorem take_filter_append (test : Char → Bool) (chars : List Char) :
    (chars.take 1).filter test ++ chars.drop ((chars.take 1).filter test).length = chars := by
  cases chars with
  | nil => rfl
  | cons char rest =>
      by_cases passes : test char = true
      · simp [passes]
      · simp [passes]

theorem namePart?_split {chars part behind : List Char}
    (found : namePart? chars = some (part, behind)) : chars = part ++ behind ∧ ' ' ∉ part := by
  unfold namePart? at found
  dsimp only at found
  have opened := take_filter_append isOpeningQuote chars
  split at found
  · rename_i first rest dropped
    split at found
    · rename_i start
      cases found
      let after := rest.dropWhile isTableChar
      have closed : (after.take 1).filter isClosingQuote ++
          after.drop ((after.take 1).filter isClosingQuote).length = after :=
        take_filter_append isClosingQuote after
      have inside : rest.takeWhile isTableChar ++ after = rest := List.takeWhile_append_dropWhile
      refine ⟨?_, ?_⟩
      · rw [List.append_assoc, closed, List.append_assoc, List.cons_append, inside, ← dropped,
          opened]
      · have spaceless := space_not_mem (rest.takeWhile isTableChar)
          (by decide : isTableChar ' ' = false) (fun char member => List.mem_takeWhile_imp member)
        have before := space_not_mem ((chars.take 1).filter isOpeningQuote)
          (by decide : isOpeningQuote ' ' = false)
          (fun char member => (List.mem_filter.mp member).2)
        have behind := space_not_mem ((after.take 1).filter isClosingQuote)
          (by decide : isClosingQuote ' ' = false)
          (fun char member => (List.mem_filter.mp member).2)
        have visible : ' ' ≠ first := by
          rintro rfl
          exact absurd start (by decide)
        simp only [List.mem_append, List.mem_cons, not_or]
        exact ⟨⟨before, visible, spaceless⟩, behind⟩
    · cases found
  · cases found

theorem furtherParts_split (steps : Nat) :
    ∀ (last chars : List Char) (taken : Nat), ∃ dotted rest, chars = dotted ++ rest ∧
      ' ' ∉ dotted ∧ (furtherParts steps last chars taken).2 = taken + dotted.length := by
  induction steps with
  | zero => exact fun last chars taken => ⟨[], chars, rfl, List.not_mem_nil, rfl⟩
  | succ steps ih =>
      intro last chars taken
      unfold furtherParts
      split
      · rename_i rest
        cases named : namePart? rest with
        | none => exact ⟨[], '.' :: rest, rfl, List.not_mem_nil, rfl⟩
        | some found =>
            obtain ⟨part, behind⟩ := found
            obtain ⟨whole, bare⟩ := namePart?_split named
            obtain ⟨dotted, tail, split, clear, total⟩ := ih part behind (taken + 1 + part.length)
            refine ⟨'.' :: part ++ dotted, tail, ?_, ?_, ?_⟩
            · rw [whole, split]
              simp
            · simp [bare, clear]
            · simp only [total, List.length_append, List.length_cons]
              omega
      · exact ⟨[], chars, rfl, List.not_mem_nil, rfl⟩

theorem dottedName?_split {chars name : List Char} {length : Nat}
    (found : dottedName? chars = some (name, length)) :
    ∃ dotted rest, chars = dotted ++ rest ∧ ' ' ∉ dotted ∧ length = dotted.length := by
  unfold dottedName? at found
  split at found
  · rename_i part behind named
    obtain ⟨whole, bare⟩ := namePart?_split named
    obtain ⟨dotted, rest, split, clear, total⟩ :=
      furtherParts_split behind.length part behind part.length
    have same := Option.some.inj found
    refine ⟨part ++ dotted, rest, ?_, ?_, ?_⟩
    · rw [whole, split, List.append_assoc]
    · simp [bare, clear]
    · rw [List.length_append, ← total, same]
  · cases found

private theorem lower_tableKeyword :
    ∀ keyword ∈ tableKeywords, keyword.map Char.toLower = keyword := by
  decide

/-- A find is a keyword, white space and a name without a space in it. -/
theorem tableAt?_split {chars name : List Char} {length : Nat}
    (found : tableAt? chars = some (name, length)) :
    ∃ word blanks dotted rest, chars = word ++ blanks ++ dotted ++ rest ∧
      word.map Char.toLower ∈ tableKeywords ∧
      ((∀ char ∈ blanks, Text.isAsciiBlank char = true) ∧ blanks ≠ []) ∧ ' ' ∉ dotted ∧
      length = (word ++ blanks ++ dotted).length := by
  rw [tableAt?_eq] at found
  obtain ⟨keyword, listed, attempt⟩ := List.exists_of_findSome?_eq_some found
  split at attempt
  · rename_i starts
    let word := chars.take keyword.length
    let behind := chars.drop keyword.length
    let blanks := behind.takeWhile Text.isAsciiBlank
    have same : keyword.map Char.toLower = word.map Char.toLower := beq_iff_eq.mp starts
    have lower : keyword.map Char.toLower = keyword := lower_tableKeyword keyword listed
    have full : word.length = keyword.length := by
      have lengths := congrArg List.length same
      rw [List.length_map, List.length_map] at lengths
      exact lengths.symm
    unfold nameBehind at attempt
    dsimp only at attempt
    split at attempt
    · cases attempt
    · rename_i some
      obtain ⟨⟨last, taken⟩, named, pair⟩ := Option.map_eq_some_iff.mp attempt
      obtain ⟨dotted, rest, split, clear, total⟩ := dottedName?_split named
      refine ⟨word, blanks, dotted, rest, ?_, ?_, ⟨?_, ?_⟩, clear, ?_⟩
      · have halves : word ++ behind = chars := List.take_append_drop _ _
        have gap : blanks ++ behind.drop blanks.length = behind :=
          List.prefix_iff_eq_append.mp (List.takeWhile_prefix _)
        rw [List.append_assoc, ← split, List.append_assoc, gap, halves]
      · rw [← same, lower]
        exact listed
      · exact fun char member => List.mem_takeWhile_imp member
      · exact fun none => some (List.isEmpty_iff.mpr none)
      · have length : keyword.length + blanks.length + taken = length := congrArg Prod.snd pair
        rw [List.length_append, List.length_append, full, ← total, length]
  · cases attempt

/-! ### Finding a name behind other text -/

/-- No find that starts inside this text can reach past a space behind it. -/
def Separate (front : List Char) : Prop :=
  ∀ word blanks, word.map Char.toLower ∈ tableKeywords →
    (∀ char ∈ blanks, Text.isAsciiBlank char = true) → ¬word ++ blanks <:+ front

private theorem space_not_mem_keyword {word : List Char}
    (keyword : word.map Char.toLower ∈ tableKeywords) : ' ' ∉ word := by
  intro member
  have lowered : ' ' ∈ word.map Char.toLower := List.mem_map.mpr ⟨' ', member, rfl⟩
  have none : ∀ other ∈ tableKeywords, ' ' ∉ other := by decide
  exact none _ keyword lowered

theorem Separate.tail {char : Char} {front : List Char} (separate : Separate (char :: front)) :
    Separate front := by
  intro word blanks keyword blank ending
  exact separate word blanks keyword blank (ending.trans (List.suffix_cons char front))

private theorem getLast?_of_suffix {chars front : List Char} {last : Char}
    (nonempty : chars ≠ []) (ending : chars <:+ front ++ [last]) : chars.getLast? = some last := by
  obtain ⟨before, whole⟩ := ending
  have same := congrArg List.getLast? whole
  rw [List.getLast?_concat, List.getLast?_append, List.getLast?_eq_some_getLast nonempty] at same
  rw [List.getLast?_eq_some_getLast nonempty]
  exact same

private theorem separate_of_visible {front : List Char} {last : Char}
    (visible : Text.isAsciiBlank last = false)
    (free : ∀ word, word.map Char.toLower ∈ tableKeywords → ¬word <:+ front ++ [last]) :
    Separate (front ++ [last]) := by
  intro word blanks keyword blank ending
  cases blanks with
  | nil =>
      rw [List.append_nil] at ending
      exact free word keyword ending
  | cons char rest =>
      have tail := getLast?_of_suffix (List.cons_ne_nil char rest)
        ((List.suffix_append word (char :: rest)).trans ending)
      have hidden := blank last (List.mem_of_getLast? tail)
      rw [visible] at hidden
      cases hidden

theorem separate_of_last {front : List Char} {last : Char}
    (visible : Text.isAsciiBlank last = false) (other : last.toLower ∉ ['m', 'n', 'o', 'e']) :
    Separate (front ++ [last]) := by
  apply separate_of_visible visible
  intro word keyword ending
  have nonempty : word ≠ [] := by
    rintro rfl
    exact absurd keyword (by decide)
  have letters : ∀ listed ∈ tableKeywords,
      listed.getLast?.all (fun char => ['m', 'n', 'o', 'e'].contains char) = true :=
    List.all_eq_true.mp (by decide)
  have own := letters _ keyword
  rw [List.getLast?_map, getLast?_of_suffix nonempty ending] at own
  exact other (List.contains_iff_mem.mp own)

theorem separate_aggregate (front : List Char) : Separate (front ++ "aggregate".toList) := by
  have split : front ++ "aggregate".toList = (front ++ "aggregat".toList) ++ ['e'] := by
    rw [List.append_assoc]
    rfl
  rw [split]
  apply separate_of_visible (by decide)
  intro word keyword ending
  rw [← split] at ending
  have short : word.length ≤ 6 := by
    have lengths : ∀ listed ∈ tableKeywords, listed.length ≤ 6 := by decide
    have own := lengths _ keyword
    rwa [List.length_map] at own
  have inside : word ∈ "aggregate".toList.tails := by
    rw [List.mem_tails]
    apply List.suffix_of_suffix_length_le ending (List.suffix_append front _)
    exact short.trans (by decide)
  have none : ∀ tail ∈ "aggregate".toList.tails, tail.map Char.toLower ∉ tableKeywords := by
    decide
  exact none word inside keyword

theorem Separate.find_within {front rest name : List Char} {length : Nat}
    (separate : Separate front) (found : tableAt? (front ++ ' ' :: rest) = some (name, length)) :
    length ≤ front.length := by
  obtain ⟨word, blanks, dotted, behind, split, keyword, ⟨blank, _⟩, clear, total⟩ :=
    tableAt?_split found
  by_contra longer
  have start : front ++ [' '] <+: word ++ blanks ++ dotted := by
    have first : front ++ [' '] <+: front ++ ' ' :: rest := ⟨rest, by simp⟩
    have second : word ++ blanks ++ dotted <+: front ++ ' ' :: rest := ⟨behind, split.symm⟩
    apply List.prefix_of_prefix_length_le first second
    rw [List.length_append, ← total, List.length_singleton]
    omega
  obtain ⟨more, whole⟩ := start
  rw [List.append_assoc, List.singleton_append] at whole
  -- The space stands in the name, in the white space or in the keyword.
  rcases List.append_eq_append_iff.mp whole with ⟨more, first, second⟩ | ⟨more, first, second⟩
  · cases more with
    | nil =>
        rw [List.append_nil] at first
        exact separate word blanks keyword blank (first ▸ List.suffix_rfl)
    | cons char more =>
        obtain ⟨rfl, _⟩ := List.cons.inj second
        rcases List.append_eq_append_iff.mp first.symm with
          ⟨gap, outer, inner⟩ | ⟨gap, outer, inner⟩
        · cases gap with
          | nil =>
              rw [List.append_nil] at outer
              refine separate word [] keyword (fun _ none => by cases none) ?_
              rw [List.append_nil, ← outer]
          | cons other gap =>
              obtain ⟨rfl, _⟩ := List.cons.inj inner
              exact space_not_mem_keyword keyword (by simp [outer])
        · refine separate word gap keyword ?_ ?_
          · intro char member
            exact blank char (by simp [inner, member])
          · rw [← outer]
  · exact clear (by simp [second])

theorem scanTables_space (inWord : Bool) (rest : List Char) :
    scanTables 0 inWord (' ' :: rest) = scanTables 0 false rest := by
  have none : tableAt? (' ' :: rest) = none := by
    rw [tableAt?_eq, List.findSome?_eq_none_iff]
    intro keyword listed
    have other : Text.startsIgnoringCase keyword (' ' :: rest) = false := by
      simp only [tableKeywords, List.mem_cons, List.not_mem_nil, or_false] at listed
      rcases listed with rfl | rfl | rfl | rfl
      · rfl
      · rfl
      · rfl
      · rfl
    rw [other]
    rfl
  cases inWord with
  | _ => simp only [scanTables, none, if_true, if_false, Bool.false_eq_true]; rfl

theorem scanTables_separate (rest : List Char) (front : List Char) :
    ∀ (passing : Nat) (inWord : Bool), passing ≤ front.length → Separate front →
      ∃ found, scanTables passing inWord (front ++ ' ' :: rest) =
        found ++ scanTables 0 false rest := by
  induction front with
  | nil =>
      intro passing inWord short _
      have none : passing = 0 := Nat.le_zero.mp short
      rw [none]
      exact ⟨[], scanTables_space inWord rest⟩
  | cons char front ih =>
      intro passing inWord short separate
      cases passing with
      | succ passing =>
          exact ih passing (Text.isNamePart char) (Nat.le_of_succ_le_succ short) separate.tail
      | zero =>
          have further := ih 0 (Text.isNamePart char) (Nat.zero_le _) separate.tail
          cases attempt : (if inWord then none else tableAt? (char :: (front ++ ' ' :: rest))) with
          | none =>
              rw [List.cons_append, scanTables, attempt]
              exact further
          | some find =>
              obtain ⟨name, length⟩ := find
              have within : length ≤ (char :: front).length := by
                cases inWord with
                | true => cases attempt
                | false => exact separate.find_within attempt
              obtain ⟨found, equal⟩ := ih (length - 1) (Text.isNamePart char)
                (by rw [List.length_cons] at within; omega) separate.tail
              refine ⟨Text.trimMatching isTableQuote name :: found, ?_⟩
              rw [List.cons_append, scanTables, attempt, List.cons_append, ← equal]

private theorem dropWhile_head {test : Char → Bool} {first : Char} {front : List Char}
    (behind : List Char) (refused : ∀ char ∈ first :: front, test char = false) :
    (first :: front ++ behind).dropWhile test = first :: front ++ behind := by
  rw [List.cons_append]
  apply List.dropWhile_cons_of_neg
  rw [refused first List.mem_cons_self]
  exact Bool.false_ne_true

theorem trimMatching_around {marks : Option (Char × Char)} {part : List Char}
    (proper : ProperMarks marks) (plain : Identifier.isPlainPart part = true) :
    Text.trimMatching isTableQuote (around marks part) = part := by
  have bare : ∀ char ∈ part, isTableQuote char = false := by
    intro char member
    exact isTableQuote_of_isNamePart (isNamePart_of_isPlainPart plain char member)
  obtain ⟨first, tail, rfl, _, _, _⟩ := plainPart_cases plain
  obtain ⟨last, front, turned⟩ : ∃ last front, (first :: tail).reverse = last :: front := by
    cases reversed : (first :: tail).reverse with
    | nil => simp at reversed
    | cons last front => exact ⟨last, front, rfl⟩
  have back : ∀ char ∈ last :: front, isTableQuote char = false := by
    intro char member
    rw [← turned, List.mem_reverse] at member
    exact bare char member
  have kept := dropWhile_head [] back
  rw [List.append_nil] at kept
  unfold Text.trimMatching
  cases marks with
  | none =>
      have whole := dropWhile_head [] bare
      rw [List.append_nil] at whole
      rw [around, whole, turned, kept, ← turned, List.reverse_reverse]
  | some pair =>
      obtain ⟨opening, closing⟩ := pair
      obtain ⟨opens, closes⟩ := proper opening closing rfl
      have left : isTableQuote opening = true := by
        unfold isTableQuote
        rw [opens, Bool.true_or]
      have right : isTableQuote closing = true := by
        unfold isTableQuote
        rw [closes, Bool.or_true]
      rw [around, List.cons_append, List.dropWhile_cons_of_pos left, dropWhile_head _ bare,
        List.reverse_append, List.reverse_singleton, List.singleton_append,
        List.dropWhile_cons_of_pos right, turned, kept, ← turned, List.reverse_reverse]

theorem scanTables_spelled {marks : Option (Char × Char)} (proper : ProperMarks marks)
    {word gap rest : List Char} (keyword : word.map Char.toLower ∈ tableKeywords)
    (blank : ∀ char ∈ gap, Text.isAsciiBlank char = true) (some : gap ≠ []) (part : List Char)
    (others : List (List Char))
    (plain : ∀ other ∈ part :: others, Identifier.isPlainPart other = true)
    (ends : NameEnds rest) (stop : rest.head? ≠ Option.some '.') :
    ∃ more, scanTables 0 false (word ++ (gap ++ (writtenName marks (part :: others) ++ rest))) =
      others.getLastD part :: more := by
  have found := tableAt?_spelled proper keyword blank some part others plain ends stop
  have last := plain _ List.getLastD_mem_cons
  obtain ⟨char, tail, begins⟩ : ∃ char tail, word = char :: tail := by
    cases word with
    | nil => exact absurd keyword (by decide)
    | cons char tail => exact ⟨char, tail, rfl⟩
  rw [begins, List.cons_append] at found ⊢
  rw [scanTables]
  simp only [Bool.false_eq_true, if_false, found, trimMatching_around proper last]
  exact ⟨_, rfl⟩

theorem scanTables_written {marks : Option (Char × Char)} (proper : ProperMarks marks)
    {word rest : List Char} (keyword : word ∈ readWords) (part : List Char)
    (others : List (List Char))
    (plain : ∀ other ∈ part :: others, Identifier.isPlainPart other = true)
    (ends : NameEnds rest) (stop : rest.head? ≠ some '.') :
    ∃ more, scanTables 0 false (word ++ ' ' :: (writtenName marks (part :: others) ++ rest)) =
      others.getLastD part :: more := by
  have lower : ∀ word ∈ readWords, word.map Char.toLower ∈ tableKeywords := by
    decide
  have blank : ∀ char ∈ [' '], Text.isAsciiBlank char = true :=
    List.forall_mem_singleton.mpr rfl
  exact scanTables_spelled proper (lower word keyword) blank (List.cons_ne_nil _ _) part others
    plain ends stop

theorem mem_firstOccurrences {text : String} {texts : List String} :
    text ∈ firstOccurrences texts ↔ text ∈ texts := by
  induction texts with
  | nil => rfl
  | cons first rest ih =>
      rw [firstOccurrences, List.mem_cons, List.mem_cons, List.mem_filter, ih, bne_iff_ne]
      by_cases same : text = first
      · simp [same]
      · simp [same]

/-- A name behind a keyword is found wherever it stands. -/
theorem mem_scanTables {marks : Option (Char × Char)} (proper : ProperMarks marks)
    {front word rest : List Char} (separate : Separate front) (keyword : word ∈ readWords)
    (part : List Char) (others : List (List Char))
    (plain : ∀ other ∈ part :: others, Identifier.isPlainPart other = true)
    (ends : NameEnds rest) (stop : rest.head? ≠ some '.') :
    others.getLastD part ∈ scanTables 0 false
      (front ++ ' ' :: (word ++ ' ' :: (writtenName marks (part :: others) ++ rest))) := by
  obtain ⟨found, equal⟩ := scanTables_separate
    (word ++ ' ' :: (writtenName marks (part :: others) ++ rest)) front 0 false (Nat.zero_le _)
    separate
  obtain ⟨more, next⟩ := scanTables_written proper keyword part others plain ends stop
  rw [equal, next]
  exact List.mem_append_right _ List.mem_cons_self

theorem mem_referencedTables {marks : Option (Char × Char)} (proper : ProperMarks marks)
    {front word rest : List Char} (separate : Separate front) (keyword : word ∈ readWords)
    (part : List Char) (others : List (List Char))
    (plain : ∀ other ∈ part :: others, Identifier.isPlainPart other = true)
    (ends : NameEnds rest) (stop : rest.head? ≠ some '.') {sql : String}
    (written : sql.toList =
      front ++ ' ' :: (word ++ ' ' :: (writtenName marks (part :: others) ++ rest))) :
    String.ofList (Text.lowerChars (others.getLastD part)) ∈ referencedTables sql := by
  unfold referencedTables
  rw [mem_firstOccurrences, written]
  exact List.mem_map_of_mem
    (mem_scanTables proper separate keyword part others plain ends stop)

theorem referencedTables_from (part : List Char) (others : List (List Char))
    (plain : ∀ other ∈ part :: others, Identifier.isPlainPart other = true) {name : String}
    (written : name.toList = writtenName none (part :: others)) :
    (referencedTables ("FROM " ++ name)).take 1 =
      [String.ofList (Text.lowerChars (others.getLastD part))] := by
  have text : ("FROM " ++ name).toList =
      "FROM".toList ++ ' ' :: (writtenName none (part :: others) ++ []) := by
    rw [String.toList_append, written, List.append_nil]
    rfl
  obtain ⟨more, next⟩ := scanTables_written properMarks_none List.mem_cons_self part others plain
    nameEnds_nil nofun
  unfold referencedTables
  rw [text, next]
  rfl

end BoundQuery
