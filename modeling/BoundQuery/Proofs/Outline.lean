import BoundQuery.Proofs.ConditionReader
import BoundQuery.Statement.Compile

/-!
The outline of a condition: which quotation is open and how many parentheses are. A text whose
quotations and parentheses all close is read from one scope to another, and it stays one when its
slots are filled with placeholders, whatever their numbers.
-/

set_option autoImplicit false

namespace BoundQuery

def isMark (char : Char) : Bool :=
  ['(', ')', '\'', '"', '\x60', '[', ']'].contains char

structure Outline where
  quote : Option Quote := none
  depth : Nat := 0
deriving DecidableEq

namespace Outline

def step (outline : Outline) (char : Char) : Option Outline :=
  match outline.quote with
  | some quote =>
      some { outline with quote := if char == quote.closing then none else some quote }
  | none =>
      match kindOf char with
      | .opening => some { outline with depth := outline.depth + 1 }
      | .closing =>
          match outline.depth with
          | 0 => none
          | depth + 1 => some { outline with depth := depth }
      | .quote quote => some { outline with quote := some quote }
      | _ => some outline

def run : Outline → List Char → Option Outline
  | outline, [] => some outline
  | outline, char :: rest =>
      match outline.step char with
      | some next => run next rest
      | none => none

end Outline

/-- Every quotation and every parenthesis in the text is closed in it, and none that was not
opened there. -/
def wellParenthesised (text : List Char) : Bool :=
  Outline.run {} text == some {}

theorem not_mark {char : Char} (plain : isMark char = false) :
    ∀ mark ∈ ['(', ')', '\'', '"', '\x60', '[', ']'], char ≠ mark := by
  rintro mark member rfl
  unfold isMark at plain
  rw [List.contains_iff_mem.mpr member] at plain
  cases plain

theorem closing_isMark (quote : Quote) : isMark quote.closing = true := by
  cases quote with
  | _ => rfl

theorem isMark_of_apart {test : Char → Bool}
    (apart : ['(', ')', '\'', '"', '\x60', '[', ']'].all (fun mark => !test mark) = true)
    {char : Char} (passes : test char = true) : isMark char = false := by
  cases found : isMark char with
  | false => rfl
  | true =>
      have own := List.all_eq_true.mp apart char (List.contains_iff_mem.mp found)
      rw [passes] at own
      cases own

theorem isMark_of_isBlank {char : Char} (blank : Text.isBlank char = true) :
    isMark char = false :=
  isMark_of_apart (by decide) blank

theorem kindOf_not_mark {char : Char} (plain : isMark char = false) :
    kindOf char =
      if Text.isNamePart char then .part else if Text.isBlank char then .blank else .other := by
  have others := not_mark plain
  simp only [List.forall_mem_cons] at others
  obtain ⟨opening, closing, single, double, back, bracket, _⟩ := others
  unfold kindOf
  simp only [beq_eq_false_iff_ne.mpr opening, beq_eq_false_iff_ne.mpr closing,
    beq_eq_false_iff_ne.mpr single, beq_eq_false_iff_ne.mpr double,
    beq_eq_false_iff_ne.mpr back, beq_eq_false_iff_ne.mpr bracket, Bool.false_eq_true, if_false]

namespace Outline

theorem step_of_not_mark (outline : Outline) {char : Char} (plain : isMark char = false) :
    outline.step char = some outline := by
  obtain ⟨quote, depth⟩ := outline
  cases quote with
  | some quote =>
      have other : (char == quote.closing) = false := by
        rw [beq_eq_false_iff_ne]
        rintro rfl
        rw [closing_isMark] at plain
        cases plain
      unfold step
      simp only [other]
      rfl
  | none =>
      unfold step
      rw [kindOf_not_mark plain]
      by_cases part : Text.isNamePart char = true
      · simp only [part, if_true]
      · by_cases blank : Text.isBlank char = true
        · simp only [part, blank, if_true]
          rfl
        · simp only [part, blank]
          rfl

theorem run_filter (text : List Char) :
    ∀ outline : Outline, outline.run (text.filter isMark) = outline.run text := by
  induction text with
  | nil => exact fun outline => rfl
  | cons char rest ih =>
      intro outline
      cases mark : isMark char with
      | false =>
          rw [List.filter_cons_of_neg (by rw [mark]; exact Bool.false_ne_true), ih, run.eq_def
            outline (char :: rest)]
          simp only [outline.step_of_not_mark mark]
      | true =>
          rw [List.filter_cons_of_pos mark, run, run]
          cases outline.step char with
          | none => rfl
          | some next => exact ih next

end Outline

theorem wellParenthesised_congr {first second : List Char}
    (same : first.filter isMark = second.filter isMark) :
    wellParenthesised first = wellParenthesised second := by
  unfold wellParenthesised
  rw [← Outline.run_filter first, ← Outline.run_filter second, same]

namespace ConditionReader

variable (valuation : Valuation)

def outline (reader : ConditionReader) : Outline :=
  { quote :=
      match reader.mode with
      | .quoted quote => some quote
      | _ => none
    depth := reader.outer.length }

theorem settle_outline (reader : ConditionReader) :
    (reader.settle valuation).outline = reader.outline := by
  obtain ⟨mode, scope, outer⟩ := reader
  cases mode with
  | _ => rfl

theorem stepApart_outline (reader : ConditionReader) {char : Char}
    (unquoted : reader.outline.quote = none) (other : kindOf char ≠ .part) :
    (reader.stepApart valuation (kindOf char) char).map outline = reader.outline.step char := by
  obtain ⟨mode, scope, outer⟩ := reader
  unfold Outline.step
  rw [unquoted]
  cases kind : kindOf char with
  | part => exact absurd kind other
  | opening => rfl
  | closing =>
      cases outer with
      | nil => rfl
      | cons first rest => rfl
  | quote quote => rfl
  | _ =>
      cases mode with
      | quoted quote => cases unquoted
      | _ => rfl

theorem step_outline (reader : ConditionReader) (char : Char) :
    (reader.step valuation char).map outline = reader.outline.step char := by
  have apart (unquoted : reader.outline.quote = none) (other : kindOf char ≠ .part) :
      ((reader.settle valuation).stepApart valuation (kindOf char) char).map outline =
        reader.outline.step char := by
    rw [← settle_outline valuation] at unquoted ⊢
    exact stepApart_outline valuation _ unquoted other
  obtain ⟨mode, scope, outer⟩ := reader
  cases mode with
  | quoted quote =>
      unfold step Outline.step outline
      by_cases closes : (char == quote.closing) = true
      · simp only [closes, if_true]
        rfl
      · simp only [closes]
        rfl
  | _ =>
      unfold step
      cases kind : kindOf char with
      | part =>
          unfold Outline.step
          simp only [kind]
          rfl
      | _ =>
          have further := apart rfl (by rw [kind]; nofun)
          rw [kind] at further
          exact further

theorem run_outline (text : List Char) : ∀ reader : ConditionReader,
    (run valuation reader text).map outline = reader.outline.run text := by
  induction text with
  | nil => exact fun reader => rfl
  | cons char rest ih =>
      intro reader
      rw [run, Outline.run, ← step_outline valuation]
      cases reader.step valuation char with
      | none => rfl
      | some next => exact ih next

end ConditionReader

/-- A text that closes all it opens is read from any scope, and what is around it is not touched. -/
theorem leads_of_wellParenthesised {text : List Char} (whole : wellParenthesised text = true)
    (valuation : Valuation) (before : Scope) : ∃ after, Leads valuation before text after := by
  have outlined := ConditionReader.run_outline valuation text { scope := before }
  unfold wellParenthesised at whole
  rw [beq_iff_eq] at whole
  rw [show ({ scope := before } : ConditionReader).outline = {} from rfl, whole] at outlined
  obtain ⟨reader, run, closed⟩ := Option.map_eq_some_iff.mp outlined
  obtain ⟨mode, scope, outer⟩ := reader
  have level : outer = [] := List.length_eq_zero_iff.mp (congrArg Outline.depth closed)
  have unquoted := congrArg Outline.quote closed
  rw [level] at run
  cases mode with
  | quoted quote => cases unquoted
  | plain => exact ⟨scope, _, run, rfl⟩
  | word letters => exact ⟨scope.addWord valuation letters.reverse, _, run, rfl⟩

/-! ### Raw conditions -/

theorem dropWhile_marks (chars : List Char) :
    (chars.dropWhile Text.isBlank).filter isMark = chars.filter isMark := by
  induction chars with
  | nil => rfl
  | cons char rest ih =>
      by_cases blank : Text.isBlank char = true
      · have plain : ¬isMark char = true := by
          rw [isMark_of_isBlank blank]
          exact Bool.false_ne_true
        rw [List.dropWhile_cons_of_pos blank, ih, List.filter_cons_of_neg plain]
      · rw [List.dropWhile_cons_of_neg blank]

theorem trimChars_marks (chars : List Char) :
    (Text.trimChars chars).filter isMark = chars.filter isMark := by
  unfold Text.trimChars Text.trimEndChars Text.trimStartChars
  rw [List.filter_reverse, dropWhile_marks, List.filter_reverse, List.reverse_reverse,
    dropWhile_marks]

namespace Part

def literal : Part → List Char
  | sql text => text.toList
  | slot => []

theorem gather_literal (tokens : List (Option Char)) : ∀ reversed : List Char,
    (gather reversed tokens).flatMap literal = reversed.reverse ++ tokens.filterMap id := by
  have rest (reversed : List Char) : (pending reversed).flatMap literal = reversed.reverse := by
    cases reversed with
    | nil => rfl
    | cons char others => simp [pending, literal]
  induction tokens with
  | nil =>
      intro reversed
      rw [gather, rest, List.filterMap_nil, List.append_nil]
  | cons token others ih =>
      intro reversed
      cases token with
      | some char => simp [gather, ih]
      | none => simp [gather, ih, rest, literal]

theorem tokens_marks (text : List Char) :
    ((tokens text).filterMap id).filter isMark = text.filter isMark := by
  have mark : isMark '?' = false := by decide
  fun_induction tokens text with
  | case1 rest ih =>
      rw [List.filterMap_cons, List.filter_cons_of_neg (by simp [mark]),
        List.filter_cons_of_neg (by simp [mark]), ← ih]
      exact List.filter_cons_of_neg (by simp [mark])
  | case2 rest _ ih =>
      rw [List.filterMap_cons, List.filter_cons_of_neg (by simp [mark]), ← ih]
      rfl
  | case3 char rest _ _ ih =>
      rw [List.filterMap_cons, List.filter_cons, ← ih]
      exact List.filter_cons
  | case4 => rfl

theorem ofRaw_marks (text : List Char) :
    ((ofRaw text).flatMap literal).filter isMark = text.filter isMark := by
  unfold ofRaw
  rw [gather_literal, List.reverse_nil, List.nil_append, tokens_marks]

end Part

theorem fillSlots_marks {placeholder : Nat → String}
    (unmarked : ∀ number, ∀ char ∈ (placeholder number).toList, isMark char = false)
    (parts : List Part) : ∀ (values : List Value) (number : Nat),
      (Piece.writeFrom placeholder number (fillSlots parts values)).filter isMark =
        (parts.flatMap Part.literal).filter isMark := by
  induction parts with
  | nil => exact fun values number => rfl
  | cons part rest ih =>
      intro values number
      cases part with
      | sql text =>
          rw [fillSlots, Piece.writeFrom, List.filter_append, ih, List.flatMap_cons,
            List.filter_append]
          rfl
      | slot =>
          cases values with
          | nil => exact ih [] number
          | cons value others =>
              have blank : (placeholder number).toList.filter isMark = [] := by
                rw [List.filter_eq_nil_iff]
                intro char member
                rw [unmarked number char member]
                exact Bool.false_ne_true
              rw [fillSlots, Piece.writeFrom, List.filter_append, ih, blank, List.nil_append]
              rfl

theorem wellParenthesised_filled {placeholder : Nat → String}
    (unmarked : ∀ number, ∀ char ∈ (placeholder number).toList, isMark char = false)
    {sql : List Char} (whole : wellParenthesised sql = true) (values : List Value) (number : Nat) :
    wellParenthesised (Piece.writeFrom placeholder number
      (fillSlots (Part.ofRaw (Text.trimChars sql)) values)) = true := by
  rw [← whole]
  apply wellParenthesised_congr
  rw [fillSlots_marks unmarked, Part.ofRaw_marks, trimChars_marks]

end BoundQuery
