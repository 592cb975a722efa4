import BoundQuery.Proofs.Numbering
import BoundQuery.Proofs.ScalarText
import BoundQuery.Statement.Placeholders

/-!
What a count of placeholders finds in written pieces. Where slots are question marks, the count
differs from the number of slots by the slots that stand in string literals and by the question
marks that stand outside of them. Where slots are numbered, it is the number of slots as soon as no
text has the mark of a placeholder and no slot has a digit behind it.
-/

set_option autoImplicit false

namespace BoundQuery

def quotedAfter : Bool → List Char → Bool
  | quoted, [] => quoted
  | quoted, char :: rest => quotedAfter (if char == '\'' then !quoted else quoted) rest

theorem quotedAfter_append (left right : List Char) :
    ∀ quoted, quotedAfter quoted (left ++ right) = quotedAfter (quotedAfter quoted left) right := by
  induction left with
  | nil => exact fun _ => rfl
  | cons char rest ih => exact fun _ => ih _

theorem countMarks_append (left right : List Char) : ∀ quoted,
    countMarks quoted (left ++ right) =
      countMarks quoted left + countMarks (quotedAfter quoted left) right := by
  induction left with
  | nil =>
      intro quoted
      rw [List.nil_append, countMarks, Nat.zero_add]
      rfl
  | cons char rest ih =>
      intro quoted
      rw [List.cons_append, countMarks, countMarks, quotedAfter]
      by_cases quote : (char == '\'') = true
      · rw [if_pos quote, if_pos quote, if_pos quote]
        exact ih _
      · rw [if_neg quote, if_neg quote, if_neg quote]
        split
        · rw [ih, Nat.add_right_comm]
        · exact ih _

namespace Piece

/-- Slots that are written where a quote is open. -/
def quotedSlots : Bool → List Piece → Nat
  | _, [] => 0
  | quoted, sql text :: rest => quotedSlots (quotedAfter quoted text.toList) rest
  | quoted, slot _ :: rest => (if quoted then 1 else 0) + quotedSlots quoted rest

/-- Question marks that are no slots and are written where no quote is open. -/
def bareMarks : Bool → List Piece → Nat
  | _, [] => 0
  | quoted, sql text :: rest =>
      countMarks quoted text.toList + bareMarks (quotedAfter quoted text.toList) rest
  | quoted, slot _ :: rest => bareMarks quoted rest

/-- The count misses the slots in literals and takes every other question mark outside of them for a
slot. -/
theorem countMarks_writeFrom {placeholder : Nat → String}
    (mark : ∀ number, placeholder number = "?") (pieces : List Piece) : ∀ quoted number,
      countMarks quoted (writeFrom placeholder number pieces) + quotedSlots quoted pieces =
        (values pieces).length + bareMarks quoted pieces := by
  induction pieces with
  | nil => exact fun _ _ => rfl
  | cons piece rest ih =>
      intro quoted number
      cases piece with
      | sql text =>
          have further := ih (quotedAfter quoted text.toList) number
          have values : (values (sql text :: rest)).length = (values rest).length := rfl
          rw [writeFrom, countMarks_append, quotedSlots, bareMarks, values]
          omega
      | slot value =>
          have further := ih quoted (number + 1)
          have values : (values (slot value :: rest)).length = (values rest).length + 1 := rfl
          have slot : (placeholder number).toList = ['?'] := by
            rw [mark]
            rfl
          rw [writeFrom, countMarks_append, slot, quotedSlots, bareMarks, values]
          cases quoted with
          | false =>
              have own : countMarks false ['?'] = 1 ∧ quotedAfter false ['?'] = false := by decide
              rw [own.1, own.2, if_neg Bool.false_ne_true]
              omega
          | true =>
              have own : countMarks true ['?'] = 0 ∧ quotedAfter true ['?'] = true := by decide
              rw [own.1, own.2, if_pos rfl]
              omega

end Piece

/-- A text without question marks outside its literals that closes each of them. -/
def Inert (chars : List Char) : Prop :=
  countMarks false chars = 0 ∧ quotedAfter false chars = false

theorem Inert.append {left right : List Char} (first : Inert left) (second : Inert right) :
    Inert (left ++ right) := by
  constructor
  · rw [countMarks_append, first.1, first.2, second.1]
  · rw [quotedAfter_append, first.2, second.2]

theorem Piece.marks_of_inert {pieces : List Piece}
    (texts : ∀ text, .sql text ∈ pieces → Inert text.toList) :
    quotedSlots false pieces = 0 ∧ bareMarks false pieces = 0 := by
  induction pieces with
  | nil => exact ⟨rfl, rfl⟩
  | cons piece rest ih =>
      have others := ih fun text member => texts text (List.mem_cons_of_mem _ member)
      cases piece with
      | sql text =>
          obtain ⟨none, outside⟩ := texts text List.mem_cons_self
          rw [quotedSlots, bareMarks, none, outside, Nat.zero_add]
          exact others
      | slot value =>
          rw [quotedSlots, bareMarks, if_neg Bool.false_ne_true, Nat.zero_add]
          exact others

/-! ### Numbers -/

namespace Decimal

theorem le_digitsValue (digits : List Char) : ∀ value,
    value ≤ digits.foldl (fun value digit => 10 * value + digitValue digit) value := by
  induction digits with
  | nil => exact fun value => Nat.le_refl value
  | cons digit rest ih =>
      intro value
      have further := ih (10 * value + digitValue digit)
      rw [List.foldl_cons]
      omega

theorem readDigits_of_le {most : Nat} {digits : List Char}
    (digit : ∀ char ∈ digits, char.isDigit = true) : ∀ value,
      digits.foldl (fun value digit => 10 * value + digitValue digit) value ≤ most →
        readDigits most value digits =
          .ok (digits.foldl (fun value digit => 10 * value + digitValue digit) value) := by
  induction digits with
  | nil => exact fun _ _ => rfl
  | cons char rest ih =>
      obtain ⟨own, others⟩ := List.forall_mem_cons.mp digit
      intro value small
      rw [List.foldl_cons] at small ⊢
      have within : ¬most < 10 * value + digitValue char :=
        Nat.not_lt.mpr ((le_digitsValue rest _).trans small)
      rw [readDigits, own, Bool.not_true, if_neg Bool.false_ne_true, if_neg within]
      exact ih others _ small

end Decimal

theorem leadingNumber_digits {number : Nat} (small : number ≤ greatestWord) {rest : List Char}
    (apart : rest.head?.all (fun char => !char.isDigit) = true) :
    leadingNumber (Nat.toDigits 10 number ++ rest) = number := by
  have digits : ∀ char ∈ Nat.toDigits 10 number, char.isDigit = true :=
    fun _ member => Nat.isDigit_of_mem_toDigits (by decide) (by decide) member
  have behind : rest.takeWhile Char.isDigit = [] := by
    cases rest with
    | nil => rfl
    | cons char more => exact List.takeWhile_cons_of_neg (by simpa using apart)
  have whole :
      (Nat.toDigits 10 number ++ rest).takeWhile Char.isDigit = Nat.toDigits 10 number := by
    rw [List.takeWhile_append_of_pos digits, behind, List.append_nil]
  have value : Decimal.digitsValue (Nat.toDigits 10 number) = number :=
    Json.digitsValue_toDigits number
  have read : Decimal.readNat greatestWord (Nat.toDigits 10 number) = .ok number := by
    have bounded : Decimal.digitsValue (Nat.toDigits 10 number) ≤ greatestWord := by
      rw [value]
      exact small
    have own := Decimal.readDigits_of_le digits 0 bounded
    rw [← Decimal.digitsValue, value] at own
    unfold Decimal.readNat
    split
    · rename_i empty
      exact absurd empty Nat.toDigits_ne_nil
    · rename_i plus
      have sign := digits '+' (by rw [plus]; exact List.mem_cons_self)
      cases sign
    · exact own
  unfold leadingNumber
  rw [whole, read]

section Numbers

variable {first : Char} {start : List Char}

theorem highestNumber_passed (mark passed rest : List Char) :
    highestNumber mark passed.length (passed ++ rest) = highestNumber mark 0 rest := by
  induction passed with
  | nil => rfl
  | cons char more ih =>
      rw [List.length_cons, List.cons_append, highestNumber]
      exact ih

theorem highestNumber_absent {text : List Char} (absent : first ∉ text) (rest : List Char) :
    highestNumber (first :: start) 0 (text ++ rest) = highestNumber (first :: start) 0 rest := by
  induction text with
  | nil => rfl
  | cons char more ih =>
      obtain ⟨other, further⟩ := not_or.mp (List.mem_cons.not.mp absent)
      have missed : Text.after? (first :: start) (char :: (more ++ rest)) = none := by
        rw [Text.after?, if_neg (by simpa using other)]
      rw [List.cons_append, highestNumber, missed]
      exact ih further

theorem highestNumber_placeholder (apart : first.isDigit = false) {number : Nat}
    (small : number ≤ greatestWord) {rest : List Char}
    (behind : rest.head?.all (fun char => !char.isDigit) = true) :
    highestNumber (first :: start) 0 (first :: start ++ Nat.toDigits 10 number ++ rest) =
      max number (highestNumber (first :: start) 0 rest) := by
  have text : first :: start ++ Nat.toDigits 10 number ++ rest =
      first :: (start ++ (Nat.toDigits 10 number ++ rest)) := by
    rw [List.append_assoc, List.cons_append]
  have found : Text.after? (first :: start)
      (first :: (start ++ (Nat.toDigits 10 number ++ rest))) =
        some (Nat.toDigits 10 number ++ rest) :=
    Text.after?_eq_some_iff.mpr rfl
  have absent : first ∉ Nat.toDigits 10 number := by
    intro member
    have digit := Nat.isDigit_of_mem_toDigits (by decide) (by decide) member
    rw [apart] at digit
    cases digit
  have passed : highestNumber (first :: start) ((first :: start).length - 1)
      (start ++ (Nat.toDigits 10 number ++ rest)) = highestNumber (first :: start) 0 rest := by
    rw [List.length_cons, Nat.add_sub_cancel, highestNumber_passed, highestNumber_absent absent]
  rw [text, highestNumber, found]
  dsimp only
  rw [leadingNumber_digits small behind, passed]

end Numbers

namespace Piece

def startsApart : List Piece → Bool
  | [] => true
  | sql text :: rest =>
      match text.toList with
      | [] => startsApart rest
      | char :: _ => !char.isDigit
  | slot _ :: _ => true

def spaced : List Piece → Bool
  | [] => true
  | sql _ :: rest => spaced rest
  | slot _ :: rest => startsApart rest && spaced rest

theorem startsApart_append {left right : List Piece} (first : startsApart left = true)
    (second : startsApart right = true) : startsApart (left ++ right) = true := by
  induction left with
  | nil => exact second
  | cons piece rest ih =>
      cases piece with
      | slot value => rfl
      | sql text =>
          rw [List.cons_append, startsApart]
          rw [startsApart] at first
          cases chars : text.toList with
          | nil =>
              rw [chars] at first
              exact ih first
          | cons char more =>
              rw [chars] at first
              exact first

theorem spaced_append {left right : List Piece} (first : spaced left = true)
    (second : spaced right = true) (apart : startsApart right = true) :
    spaced (left ++ right) = true := by
  induction left with
  | nil => exact second
  | cons piece rest ih =>
      cases piece with
      | sql text => exact ih first
      | slot value =>
          rw [spaced, Bool.and_eq_true] at first
          rw [List.cons_append, spaced, Bool.and_eq_true]
          exact ⟨startsApart_append first.1 apart, ih first.2⟩

variable {placeholder : Nat → String} {first : Char} {start : List Char}

theorem head_writeFrom
    (marked : ∀ number, (placeholder number).toList = first :: start ++ Nat.toDigits 10 number)
    (apart : first.isDigit = false) (pieces : List Piece) (starts : startsApart pieces = true) :
    ∀ number,
      (writeFrom placeholder number pieces).head?.all (fun char => !char.isDigit) = true := by
  induction pieces with
  | nil => exact fun _ => rfl
  | cons piece rest ih =>
      intro number
      cases piece with
      | slot value =>
          rw [writeFrom, marked]
          simp [apart]
      | sql text =>
          rw [startsApart] at starts
          rw [writeFrom]
          cases chars : text.toList with
          | nil =>
              rw [chars] at starts
              exact ih starts number
          | cons char more =>
              rw [chars] at starts
              exact starts

/-- The slots are numbered one after another, so the last has the highest number. -/
theorem highestNumber_writeFrom
    (marked : ∀ number, (placeholder number).toList = first :: start ++ Nat.toDigits 10 number)
    (apart : first.isDigit = false) (pieces : List Piece)
    (texts : ∀ text, .sql text ∈ pieces → first ∉ text.toList) (separate : spaced pieces = true) :
    ∀ number, number + (values pieces).length ≤ greatestWord + 1 →
      highestNumber (first :: start) 0 (writeFrom placeholder number pieces) =
        if (values pieces).length = 0 then 0 else number + (values pieces).length - 1 := by
  induction pieces with
  | nil => exact fun _ _ => rfl
  | cons piece rest ih =>
      have others := ih fun text member => texts text (List.mem_cons_of_mem _ member)
      intro number small
      cases piece with
      | sql text =>
          rw [writeFrom, highestNumber_absent (texts text List.mem_cons_self)]
          exact others separate number small
      | slot value =>
          rw [spaced, Bool.and_eq_true] at separate
          have length : (values (slot value :: rest)).length = (values rest).length + 1 := rfl
          have behind := head_writeFrom marked apart rest separate.1 (number + 1)
          rw [length] at small ⊢
          rw [writeFrom, marked, highestNumber_placeholder apart (by omega) behind,
            others separate.2 (number + 1) (by omega), if_neg (Nat.succ_ne_zero _)]
          split
          · omega
          · omega

end Piece

/-! ### The built-in dialects -/

namespace Dialect

def isNumbered : Dialect → Bool
  | postgresql => true
  | mysql => false
  | sqlite => false
  | mssql => true

/-- No placeholder is found in the text or begins in it, nor does it hide one behind it. -/
def Silent : Dialect → List Char → Prop
  | postgresql, chars => '$' ∉ chars
  | mysql, chars => Inert chars
  | sqlite, chars => Inert chars
  | mssql, chars => '@' ∉ chars

theorem Silent.append {dialect : Dialect} {left right : List Char} (first : dialect.Silent left)
    (second : dialect.Silent right) : dialect.Silent (left ++ right) := by
  cases dialect with
  | mysql => exact Inert.append first second
  | sqlite => exact Inert.append first second
  | _ =>
      intro member
      rcases List.mem_append.mp member with inside | inside
      · exact first inside
      · exact second inside

/-- Pieces in which a count finds the slots and nothing else. -/
structure Countable (dialect : Dialect) (pieces : List Piece) : Prop where
  texts : ∀ text, .sql text ∈ pieces → dialect.Silent text.toList
  spaced : dialect.isNumbered = true → Piece.spaced pieces = true

theorem count_of_unnumbered {dialect : Dialect} (unnumbered : dialect.isNumbered = false)
    (pieces : List Piece) :
    countPlaceholders dialect.profile (Piece.statement dialect.profile pieces).sql +
        Piece.quotedSlots false pieces =
      (Piece.values pieces).length + Piece.bareMarks false pieces := by
  unfold countPlaceholders Piece.statement
  rw [String.toList_ofList]
  cases dialect with
  | mysql => exact Piece.countMarks_writeFrom (fun _ => rfl) pieces false 1
  | sqlite => exact Piece.countMarks_writeFrom (fun _ => rfl) pieces false 1
  | _ => cases unnumbered

/-- No list in memory has more entries than the greatest word can count. -/
theorem Countable.count {dialect : Dialect} {pieces : List Piece}
    (countable : dialect.Countable pieces)
    (small : dialect.isNumbered = true → (Piece.values pieces).length ≤ greatestWord) :
    countPlaceholders dialect.profile (Piece.statement dialect.profile pieces).sql =
      (Piece.values pieces).length := by
  have marks (unnumbered : dialect.isNumbered = false)
      (texts : ∀ text, .sql text ∈ pieces → Inert text.toList) :
      countPlaceholders dialect.profile (Piece.statement dialect.profile pieces).sql =
        (Piece.values pieces).length := by
    have count := count_of_unnumbered unnumbered pieces
    obtain ⟨none, outside⟩ := Piece.marks_of_inert texts
    omega
  have numbers (first : Char) (start : List Char) (apart : first.isDigit = false)
      (marked : ∀ number,
        (dialect.placeholder number).toList = first :: start ++ Nat.toDigits 10 number)
      (texts : ∀ text, .sql text ∈ pieces → first ∉ text.toList)
      (numbered : dialect.isNumbered = true) :
      highestNumber (first :: start) 0 (Piece.writeFrom dialect.placeholder 1 pieces) =
        (Piece.values pieces).length := by
    have most := small numbered
    rw [Piece.highestNumber_writeFrom marked apart pieces texts (countable.spaced numbered) 1
      (by omega)]
    split
    · omega
    · omega
  have digits (lead : String) (number : Nat) :
      (lead ++ toString number).toList = lead.toList ++ Nat.toDigits 10 number := by
    rw [String.toList_append, Nat.toString_eq_repr, Nat.repr, String.toList_ofList]
  cases dialect with
  | mysql => exact marks rfl countable.texts
  | sqlite => exact marks rfl countable.texts
  | postgresql =>
      have mark : numberMark postgresql.profile = ['$'] := by decide
      unfold countPlaceholders Piece.statement
      rw [String.toList_ofList, if_neg (by decide), mark]
      exact numbers '$' [] (by decide) (digits "$") countable.texts rfl
  | mssql =>
      have mark : numberMark mssql.profile = ['@', 'P'] := by decide
      unfold countPlaceholders Piece.statement
      rw [String.toList_ofList, if_neg (by decide), mark]
      exact numbers '@' ['P'] (by decide) (digits "@P") countable.texts rfl

end Dialect

end BoundQuery
