import BoundQuery.Proofs.Conditions

/-!
Conditions that are joined by `AND` as they stand. Each that keeps its `OR` to itself has to hold.
One that does not ends the conjunction before it and begins another: then the whole can hold where a
condition does not, but only if one that divides it holds.
-/

set_option autoImplicit false

namespace BoundQuery

/-! ### A text on its own and behind others -/

/-- The value of a condition behind so many operands of others, and the number of operands up to its
end; none where `readCondition` has none. -/
def readBehind (valuation : Valuation) (position : Nat) (text : List Char) : Option (Bool × Nat) :=
  match (ConditionReader.run valuation { scope := { position := position } } text).map
      (ConditionReader.settle valuation) with
  | some ⟨.plain, scope, []⟩ => some (scope.value valuation, scope.position + 1)
  | _ => none

theorem readBehind_zero (valuation : Valuation) (text : List Char) :
    readBehind valuation 0 text = readCondition valuation text :=
  rfl

theorem Leads.readBehind_eq {valuation : Valuation} {position : Nat} {text : List Char}
    {after : Scope} (leads : Leads valuation { position := position } text after) :
    readBehind valuation position text = some (after.value valuation, after.position + 1) := by
  obtain ⟨reader, run, settled⟩ := leads
  unfold readBehind
  rw [run, Option.map_some, settled]

theorem Leads.unique {valuation : Valuation} {before first second : Scope} {text : List Char}
    (left : Leads valuation before text first) (right : Leads valuation before text second) :
    first = second := by
  obtain ⟨reader, run, settled⟩ := left
  obtain ⟨other, further, reached⟩ := right
  have same : reader = other := Option.some.inj (run.symm.trans further)
  rw [same, reached] at settled
  exact (congrArg ConditionReader.scope settled).symm

namespace Scope

/-- Two scopes in the same text: one read by itself, and one read behind what had led to a scope
before it. Both see the same operands; only what was decided before sets them apart. -/
structure Behind (before own after : Scope) : Prop where
  position : after.position = own.position
  operand : ∃ blanks, (∀ char ∈ blanks, Text.isBlank char = true) ∧
    after.operand = own.operand ++ blanks
  form : after.form = own.form
  between : after.between = own.between
  decided : before.disjunction = true → after.disjunction = true
  divided : before.conjunction = true → own.disjunction = true → after.disjunction = true
  opened : after.disjunction = true → before.disjunction = true ∨ own.disjunction = true
  continued : before.conjunction = true → own.conjunction = true → after.conjunction = true
  held : after.conjunction = true → own.conjunction = true

namespace Behind

variable {before own after : Scope}

theorem operandValue_eq (behind : Behind before own after) (valuation : Valuation) :
    after.operandValue valuation = own.operandValue valuation := by
  obtain ⟨blanks, blank, same⟩ := behind.operand
  have trimmed : Text.trimChars after.operand.reverse = Text.trimChars own.operand.reverse := by
    rw [same, List.reverse_append]
    exact trimChars_behind (fun char member => blank char (List.mem_reverse.mp member)) _
  unfold operandValue
  rw [behind.form, behind.position, trimmed]

theorem value_of_own (behind : Behind before own after) {valuation : Valuation}
    (former : before.disjunction = true ∨ before.conjunction = true)
    (holds : own.value valuation = true) : after.value valuation = true := by
  unfold value at holds ⊢
  rw [Bool.or_eq_true, Bool.and_eq_true] at holds ⊢
  rw [behind.operandValue_eq]
  rcases former with decided | continued
  · exact .inl (behind.decided decided)
  · rcases holds with divided | ⟨held, last⟩
    · exact .inl (behind.divided continued divided)
    · exact .inr ⟨behind.continued continued held, last⟩

theorem own_of_value (behind : Behind before own after) {valuation : Valuation}
    (holds : after.value valuation = true) :
    before.disjunction = true ∨ own.value valuation = true := by
  unfold value at holds ⊢
  rw [Bool.or_eq_true, Bool.and_eq_true] at holds ⊢
  rw [behind.operandValue_eq] at holds
  rcases holds with divided | ⟨held, last⟩
  · exact (behind.opened divided).imp_right .inl
  · exact .inr (.inr ⟨behind.held held, last⟩)

theorem add (behind : Behind before own after) (chars : List Char) :
    Behind before (own.add chars) (after.add chars) := by
  obtain ⟨blanks, blank, same⟩ := behind.operand
  exact { behind with
    operand := ⟨blanks, blank, by simp only [Scope.add, same, List.append_assoc]⟩
    form := rfl }

theorem addBlank (behind : Behind before own after) (char : Char) :
    Behind before (own.addBlank char) (after.addBlank char) := by
  obtain ⟨blanks, blank, same⟩ := behind.operand
  exact { behind with
    operand := ⟨blanks, blank, by simp only [Scope.addBlank, same, List.cons_append]⟩ }

theorem addWord (behind : Behind before own after) (valuation : Valuation) (word : List Char) :
    Behind before (own.addWord valuation word) (after.addWord valuation word) := by
  have fresh : ∃ blanks, (∀ char ∈ blanks, Text.isBlank char = true) ∧
      ([] : List Char) = [] ++ blanks := ⟨[], nofun, rfl⟩
  have next : after.position + 1 = own.position + 1 := congrArg (· + 1) behind.position
  unfold Scope.addWord
  rw [behind.between, behind.operandValue_eq]
  split
  · split
    · exact { behind.add word with between := rfl }
    · exact {
        position := next
        operand := fresh
        form := rfl
        between := rfl
        decided := behind.decided
        divided := behind.divided
        opened := behind.opened
        continued := fun continued held => by
          rw [Bool.and_eq_true] at held ⊢
          exact ⟨behind.continued continued held.1, held.2⟩
        held := fun held => by
          rw [Bool.and_eq_true] at held ⊢
          exact ⟨behind.held held.1, held.2⟩ }
  · split
    · exact {
        position := next
        operand := fresh
        form := rfl
        between := rfl
        decided := fun decided => by
          change (after.disjunction || _) = true
          rw [behind.decided decided, Bool.true_or]
        divided := fun continued divided => behind.value_of_own (.inr continued) divided
        opened := fun opened => behind.own_of_value opened
        continued := fun _ _ => rfl
        held := fun _ => rfl }
    · split
      · exact { behind.add word with between := rfl }
      · exact behind.add word

theorem enclose (behind : Behind before own after) (valuation : Valuation) (inner : Scope) :
    Behind before (own.enclose valuation inner) (after.enclose valuation inner) := by
  obtain ⟨blanks, blank, same⟩ := behind.operand
  exact { behind with
    position := rfl
    operand := ⟨blanks, blank, by simp [Scope.enclose, same]⟩
    form := by
      unfold Scope.enclose
      rw [behind.form, behind.position] }

end Behind

theorem behind_joined {scope : Scope} (valuation : Valuation) (closed : scope.between = false) :
    Behind (scope.joined valuation .and) { position := scope.position + 1 }
      (scope.joined valuation .and) := by
  have joined := scope.joined_and valuation closed
  have blank : ∀ char ∈ [' '], Text.isBlank char = true := List.all_eq_true.mp (by decide)
  exact {
    position := by rw [joined]
    operand := ⟨[' '], blank, by rw [joined]; rfl⟩
    form := by rw [joined]
    between := by rw [joined]
    decided := id
    divided := nofun
    opened := .inl
    continued := fun continued _ => continued
    held := fun _ => rfl }

end Scope

namespace ConditionReader

/-- Only the outermost scope knows what came before the text. -/
inductive Behind (before : Scope) : ConditionReader → ConditionReader → Prop where
  | outside {own after : Scope} (mode : Mode) (behind : Scope.Behind before own after) :
      Behind before { mode := mode, scope := own } { mode := mode, scope := after }
  | inside {own after : Scope} (mode : Mode) (scope : Scope) (outer : List Scope)
      (behind : Scope.Behind before own after) :
      Behind before { mode := mode, scope := scope, outer := outer ++ [own] }
        { mode := mode, scope := scope, outer := outer ++ [after] }

namespace Behind

variable {valuation : Valuation} {before : Scope} {own after next : ConditionReader}

theorem mode_eq (behind : Behind before own after) : after.mode = own.mode := by
  cases behind with
  | _ => rfl

theorem settle (behind : Behind before own after) (valuation : Valuation) :
    Behind before (own.settle valuation) (after.settle valuation) := by
  cases behind with
  | outside mode behind =>
      cases mode with
      | word letters => exact .outside _ (behind.addWord valuation letters.reverse)
      | _ => exact .outside _ behind
  | inside mode scope outer behind =>
      cases mode with
      | _ => exact .inside _ _ outer behind

theorem extend (behind : Behind before own after) (mode : Mode) {change : Scope → Scope}
    (kept : ∀ {first second : Scope}, Scope.Behind before first second →
      Scope.Behind before (change first) (change second)) :
    Behind before { own with mode := mode, scope := change own.scope }
      { after with mode := mode, scope := change after.scope } := by
  cases behind with
  | outside _ behind => exact .outside mode (kept behind)
  | inside _ scope outer behind => exact .inside mode _ outer behind

theorem stepApart (behind : Behind before own after) {kind : Kind} {char : Char}
    (stepped : own.stepApart valuation kind char = some next) :
    ∃ further, after.stepApart valuation kind char = some further ∧
      Behind before next further := by
  cases kind with
  -- Inside of parentheses both go on alike; the scope that differs waits outside.
  | opening =>
      cases stepped
      refine ⟨_, rfl, ?_⟩
      cases behind with
      | outside _ behind =>
          rw [behind.position]
          exact .inside _ _ [] behind
      | inside _ scope outer behind => exact .inside _ _ (scope :: outer) behind
  | closing =>
      cases behind with
      | outside _ _ => cases stepped
      | inside _ scope outer behind =>
          cases outer with
          | nil =>
              cases stepped
              exact ⟨_, rfl, .outside _ (behind.enclose valuation scope)⟩
          | cons first rest =>
              cases stepped
              exact ⟨_, rfl, .inside _ _ rest behind⟩
  | quote quote =>
      cases stepped
      exact ⟨_, rfl, behind.extend _ fun same => same.add [char]⟩
  | blank =>
      cases stepped
      rw [← behind.mode_eq]
      exact ⟨_, rfl, behind.extend _ fun same => same.addBlank char⟩
  | _ =>
      cases stepped
      rw [← behind.mode_eq]
      exact ⟨_, rfl, behind.extend _ fun same => same.add [char]⟩

theorem step (behind : Behind before own after) {char : Char}
    (stepped : own.step valuation char = some next) :
    ∃ further, after.step valuation char = some further ∧ Behind before next further := by
  have same := behind.mode_eq
  have letters : after.letters = own.letters := by
    unfold ConditionReader.letters
    rw [same]
  unfold ConditionReader.step at stepped ⊢
  rw [same]
  split at stepped
  · cases stepped
    exact ⟨_, rfl, behind.extend _ fun same => same.add [char]⟩
  · split at stepped
    · cases stepped
      rw [letters]
      exact ⟨_, rfl, behind.extend _ id⟩
    · exact (behind.settle valuation).stepApart stepped

theorem run (text : List Char) : ∀ {own after next : ConditionReader}, Behind before own after →
    ConditionReader.run valuation own text = some next →
      ∃ further, ConditionReader.run valuation after text = some further ∧
        Behind before next further := by
  induction text with
  | nil =>
      intro own after next behind done
      cases done
      exact ⟨after, rfl, behind⟩
  | cons char rest ih =>
      intro own after next behind done
      obtain ⟨middle, stepped, onward⟩ := ConditionReader.run_cons_some done
      obtain ⟨further, same, kept⟩ := behind.step stepped
      unfold ConditionReader.run
      rw [same]
      exact ih kept onward

theorem of_closed {scope : Scope} (behind : Behind before { scope := scope } after) :
    ∃ last, after = { scope := last } ∧ Scope.Behind before scope last := by
  generalize shown : ({ scope := scope } : ConditionReader) = reader at behind
  cases behind with
  | outside mode behind =>
      cases shown
      exact ⟨_, rfl, behind⟩
  | inside mode inner outer behind =>
      have level := congrArg (fun reader => reader.outer.length) shown
      simp at level

end Behind

end ConditionReader

theorem Leads.behind {valuation : Valuation} {before own : Scope} {text : List Char}
    (leads : Leads valuation { position := before.position + 1 } text own)
    (closed : before.between = false) :
    ∃ after, Leads valuation (before.joined valuation .and) text after ∧
      Scope.Behind (before.joined valuation .and) own after := by
  obtain ⟨reader, run, settled⟩ := leads
  have start := ConditionReader.Behind.outside .plain (Scope.behind_joined valuation closed)
  obtain ⟨further, same, kept⟩ := ConditionReader.Behind.run text start run
  have last := kept.settle valuation
  rw [settled] at last
  obtain ⟨after, reached, behind⟩ := last.of_closed
  exact ⟨after, ⟨further, same, reached⟩, behind⟩

/-- No `OR` of the text parts it from what stands before it: whatever is read up to there has to
hold as well. -/
def Conjoins (text : List Char) : Prop :=
  ∀ valuation before, before.between = false →
    ∃ after, Leads valuation before text after ∧ after.between = false ∧
      after.disjunction = before.disjunction ∧
      (after.conjunction = true → before.conjunction = true)

section

variable {text : List Char}

theorem Phrase.conjoins (phrase : Phrase text) : Conjoins text :=
  fun valuation before closed => ⟨before.add text, phrase valuation before, closed, rfl, id⟩

theorem conjoins_of_enclosed
    (inner : ∀ valuation position, ∃ after, Leads valuation { position := position } text after) :
    Conjoins ('(' :: text ++ [')']) := by
  intro valuation before closed
  obtain ⟨after, leads⟩ := inner valuation before.position
  exact ⟨before.enclose valuation after, leads.enclosed before, closed, rfl, id⟩

end

/-! ### An `OR` of the text's own -/

/-- Whether one of its words outside of quotes and parentheses is an `OR`. The letters of the word
that is being read are given last one first. -/
def hasOwnOr : Outline → List Char → List Char → Bool
  | outline, letters, [] =>
      outline.depth == 0 && Text.equalsIgnoringCase letters.reverse "OR".toList
  | outline, letters, char :: rest =>
      if outline.quote.isNone && Text.isNamePart char then hasOwnOr outline (char :: letters) rest
      else
        (outline.depth == 0 && Text.equalsIgnoringCase letters.reverse "OR".toList) ||
          match outline.step char with
          | some next => hasOwnOr next [] rest
          | none => false

theorem hasOwnOr_part {outline : Outline} {letters rest : List Char} {char : Char}
    (part : (outline.quote.isNone && Text.isNamePart char) = true) :
    hasOwnOr outline letters (char :: rest) = hasOwnOr outline (char :: letters) rest := by
  rw [hasOwnOr, if_pos part]

theorem hasOwnOr_apart {outline next : Outline} {letters rest : List Char} {char : Char}
    (apart : (outline.quote.isNone && Text.isNamePart char) = false)
    (stepped : outline.step char = some next) :
    hasOwnOr outline letters (char :: rest) =
      ((outline.depth == 0 && Text.equalsIgnoringCase letters.reverse "OR".toList) ||
        hasOwnOr next [] rest) := by
  rw [hasOwnOr, apart, if_neg Bool.false_ne_true, stepped]

theorem kindOf_eq_part_iff {char : Char} :
    kindOf char = .part ↔ Text.isNamePart char = true := by
  constructor
  · intro kind
    exact eq_true_of_ne_false fun apart => ConditionReader.kindOf_ne_part apart kind
  · intro part
    unfold kindOf
    rw [if_pos part]

theorem Outline.step_of_part {outline : Outline} {char : Char}
    (part : (outline.quote.isNone && Text.isNamePart char) = true) :
    outline.step char = some outline := by
  rw [Bool.and_eq_true, Option.isNone_iff_eq_none] at part
  unfold Outline.step
  rw [part.1, kindOf_eq_part_iff.mpr part.2]

namespace Scope

def Keeps (first second : Scope) : Prop :=
  second.disjunction = first.disjunction ∧
    (second.conjunction = true → first.conjunction = true)

theorem Keeps.refl (scope : Scope) : scope.Keeps scope :=
  ⟨rfl, id⟩

theorem Keeps.trans {first second third : Scope} (left : first.Keeps second)
    (right : second.Keeps third) : first.Keeps third :=
  ⟨right.1.trans left.1, left.2 ∘ right.2⟩

theorem keeps_addWord (scope : Scope) (valuation : Valuation) {word : List Char}
    (other : Text.equalsIgnoringCase word "OR".toList = false) :
    scope.Keeps (scope.addWord valuation word) := by
  unfold addWord
  rw [other]
  split
  · split
    · exact ⟨rfl, id⟩
    · exact ⟨rfl, fun held => ((Bool.and_eq_true _ _).mp held).1⟩
  · split
    · rename_i same
      cases same
    · split
      · exact ⟨rfl, id⟩
      · exact ⟨rfl, id⟩

end Scope

namespace ConditionReader

variable {valuation : Valuation} {reader next : ConditionReader}

def outermost (reader : ConditionReader) : Scope :=
  reader.outer.getLast?.getD reader.scope

theorem outermost_beneath (mode : Mode) (scope first : Scope) (rest : List Scope) :
    outermost { mode := mode, scope := scope, outer := first :: rest } =
      outermost { scope := first, outer := rest } := by
  unfold outermost
  cases rest with
  | nil => rfl
  | cons second others => rfl

theorem keeps_change (mode : Mode) (change : Scope → Scope)
    (kept : ∀ scope : Scope, scope.Keeps (change scope)) :
    reader.outermost.Keeps
      ({ reader with mode := mode, scope := change reader.scope } : ConditionReader).outermost := by
  obtain ⟨own, scope, outer⟩ := reader
  cases outer with
  | nil => exact kept scope
  | cons first rest =>
      rw [outermost_beneath, outermost_beneath]
      exact Scope.Keeps.refl _

theorem keeps_settle (whole : reader.outline.depth = 0 →
      Text.equalsIgnoringCase reader.letters.reverse "OR".toList = false) :
    reader.outermost.Keeps (reader.settle valuation).outermost := by
  obtain ⟨mode, scope, outer⟩ := reader
  cases mode with
  | word letters =>
      cases outer with
      | nil => exact scope.keeps_addWord valuation (whole rfl)
      | cons first rest =>
          unfold settle
          dsimp only
          rw [outermost_beneath, outermost_beneath]
          exact Scope.Keeps.refl _
  | _ => exact Scope.Keeps.refl _

theorem keeps_stepApart {kind : Kind} {char : Char}
    (stepped : reader.stepApart valuation kind char = some next) :
    reader.outermost.Keeps next.outermost := by
  cases kind with
  | opening =>
      cases stepped
      obtain ⟨mode, scope, outer⟩ := reader
      cases outer with
      | nil => exact Scope.Keeps.refl _
      | cons first rest =>
          rw [outermost_beneath, outermost_beneath, outermost_beneath]
          exact Scope.Keeps.refl _
  | closing =>
      obtain ⟨mode, scope, outer⟩ := reader
      cases outer with
      | nil => cases stepped
      | cons first rest =>
          cases stepped
          rw [outermost_beneath]
          cases rest with
          | nil => exact ⟨rfl, id⟩
          | cons second others =>
              rw [outermost_beneath, outermost_beneath]
              exact Scope.Keeps.refl _
  | blank =>
      cases stepped
      exact keeps_change reader.mode (fun scope => scope.addBlank char) fun scope => ⟨rfl, id⟩
  | _ =>
      cases stepped
      exact keeps_change _ (fun scope => scope.add [char]) fun scope => ⟨rfl, id⟩

theorem Whole.letters (whole : reader.Whole) : reader.letters = [] := by
  obtain ⟨mode, scope, outer⟩ := reader
  cases mode with
  | word letters => exact absurd rfl (whole letters)
  | _ => rfl

theorem quote_of_unquoted (unquoted : ∀ quote, reader.mode ≠ .quoted quote) :
    reader.outline.quote = none := by
  unfold outline
  dsimp only
  split
  · rename_i quote quoted
    exact absurd quoted (unquoted quote)
  · rfl

theorem step_letters {char : Char} (stepped : reader.step valuation char = some next) :
    next.letters =
      if reader.outline.quote.isNone && Text.isNamePart char then char :: reader.letters
      else [] := by
  rcases step_cases stepped with ⟨quote, quoted, rfl⟩ | ⟨unquoted, ⟨kind, rfl⟩ | ⟨other, own⟩⟩
  · have inside : reader.outline.quote = some quote := by
      unfold outline
      rw [quoted]
    rw [inside, Option.isNone_some, Bool.false_and, if_neg Bool.false_ne_true]
    refine Whole.letters fun letters => ?_
    dsimp only
    split
    · nofun
    · nofun
  · rw [quote_of_unquoted unquoted, kindOf_eq_part_iff.mp kind]
    rfl
  · rw [quote_of_unquoted unquoted, eq_false_of_ne_true (mt kindOf_eq_part_iff.mpr other)]
    exact (stepApart_whole reader.settle_whole own).letters

theorem keeps_step {char : Char}
    (whole : (reader.outline.quote.isNone && Text.isNamePart char) = false →
      reader.outline.depth = 0 →
        Text.equalsIgnoringCase reader.letters.reverse "OR".toList = false)
    (stepped : reader.step valuation char = some next) :
    reader.outermost.Keeps next.outermost := by
  rcases step_cases stepped with ⟨quote, _, rfl⟩ | ⟨_, ⟨_, rfl⟩ | ⟨other, own⟩⟩
  · exact keeps_change _ (fun scope => scope.add [char]) fun scope => ⟨rfl, id⟩
  · exact keeps_change _ id Scope.Keeps.refl
  · refine (keeps_settle (whole ?_)).trans (keeps_stepApart own)
    rw [eq_false_of_ne_true (mt kindOf_eq_part_iff.mpr other), Bool.and_false]

theorem keeps_run (text : List Char) : ∀ {reader next : ConditionReader},
    run valuation reader text = some next →
      hasOwnOr reader.outline reader.letters text = false →
        reader.outermost.Keeps (next.settle valuation).outermost := by
  induction text with
  | nil =>
      intro reader next done own
      cases done
      refine keeps_settle fun depth => ?_
      unfold hasOwnOr at own
      rw [depth] at own
      exact own
  | cons char rest ih =>
      intro reader next done own
      obtain ⟨middle, stepped, further⟩ := run_cons_some done
      have outlined := step_outline valuation reader char
      rw [stepped, Option.map_some] at outlined
      have letters := step_letters stepped
      cases part : reader.outline.quote.isNone && Text.isNamePart char with
      | true =>
          rw [hasOwnOr_part part] at own
          rw [part, if_pos rfl] at letters
          have same : middle.outline = reader.outline := by
            rw [Outline.step_of_part part] at outlined
            exact Option.some.inj outlined
          rw [← letters, ← same] at own
          have inside : (reader.outline.quote.isNone && Text.isNamePart char) ≠ false := by
            rw [part]
            decide
          exact (keeps_step (fun other => absurd other inside) stepped).trans (ih further own)
      | false =>
          rw [hasOwnOr_apart part outlined.symm, Bool.or_eq_false_iff] at own
          rw [part, if_neg Bool.false_ne_true] at letters
          obtain ⟨here, later⟩ := own
          rw [← letters] at later
          refine (keeps_step (fun _ depth => ?_) stepped).trans (ih further later)
          rw [depth] at here
          exact here

end ConditionReader

theorem Closes.conjoins {text : List Char} (closes : Closes text)
    (whole : hasOwnOr {} [] text = false) : Conjoins text := by
  intro valuation before closed
  obtain ⟨after, ⟨reader, run, settled⟩, between⟩ := closes valuation before closed
  have kept := ConditionReader.keeps_run text run whole
  rw [settled] at kept
  exact ⟨after, ⟨reader, run, settled⟩, between, kept⟩

/-! ### Texts joined by `AND` -/

/-- Texts as they stand one behind another. -/
def joinTexts : List (List Char) → List Char
  | [] => []
  | first :: rest =>
      first ++ rest.flatMap (fun text => (" " ++ Combinator.and.text ++ " ").toList ++ text)

/-- The value of each text by itself; the operands are numbered through all of them. -/
def readEach (valuation : Valuation) : Nat → List (List Char) → Option (List Bool)
  | _, [] => some []
  | position, text :: rest => do
      let (value, next) ← readBehind valuation position text
      let others ← readEach valuation next rest
      pure (value :: others)

/-- One of the texts holds, and an `OR` of it ends the conjunction before it. -/
def Divides (texts : List (List Char)) (values : List Bool) : Prop :=
  ∃ pair ∈ texts.zip values, ¬Conjoins pair.1 ∧ pair.2 = true

/-- The joined texts hold where each of them does. Where they hold and one of them does not, one
that divides them holds. -/
def Conjunction (valuation : Valuation) (texts : List (List Char)) : Prop :=
  ∃ value count values, readCondition valuation (joinTexts texts) = some (value, count) ∧
    readEach valuation 0 texts = some values ∧
    (values.all id = true → value = true) ∧
    (value = true → values.all id = true ∨ Divides texts values)

section

variable {valuation : Valuation} {text first : List Char} {rest : List (List Char)}

theorem readEach_cons {position next : Nat} {value : Bool} {values : List Bool}
    (own : readBehind valuation position text = some (value, next))
    (others : readEach valuation next rest = some values) :
    readEach valuation position (text :: rest) = some (value :: values) := by
  rw [readEach, own]
  change (readEach valuation next rest).bind _ = _
  rw [others]
  rfl

theorem Divides.later {texts : List (List Char)} {values : List Bool}
    (divides : Divides texts values) (value : Bool) :
    Divides (text :: texts) (value :: values) := by
  obtain ⟨pair, member, parts⟩ := divides
  exact ⟨pair, List.mem_cons_of_mem _ member, parts⟩

theorem Divides.here {texts : List (List Char)} {values : List Bool} (own : ¬Conjoins text) :
    Divides (text :: texts) (true :: values) :=
  ⟨(text, true), List.mem_cons_self, own, rfl⟩

structure Scope.Joins (valuation : Valuation) (before : Scope) (text : List Char) (value : Bool)
    (after : Scope) : Prop where
  leads : Leads valuation (before.joined valuation .and) text after
  read : readBehind valuation (before.position + 1) text = some (value, after.position + 1)
  between : after.between = false
  kept : before.value valuation = true → value = true → after.value valuation = true
  opened : after.disjunction = true → before.disjunction = true ∨ ¬Conjoins text ∧ value = true
  held : (after.conjunction && after.operandValue valuation) = true → value = true ∧
    ((before.conjunction && before.operandValue valuation) = true ∨ ¬Conjoins text)

theorem Closes.joins (closes : Closes text) (valuation : Valuation) {before : Scope}
    (closed : before.between = false) :
    ∃ after value, before.Joins valuation text value after := by
  obtain ⟨own, leads, between⟩ := closes valuation { position := before.position + 1 } rfl
  obtain ⟨after, further, behind⟩ := leads.behind closed
  have joined := before.joined_and valuation closed
  have whole : Conjoins text → after.disjunction = before.disjunction ∧
      (after.conjunction = true →
        (before.conjunction && before.operandValue valuation) = true) := by
    intro conjoins
    obtain ⟨other, again, _, same, held⟩ := conjoins valuation (before.joined valuation .and)
      (before.joined_between valuation .and closed)
    rw [again.unique further, joined] at same held
    exact ⟨same, held⟩
  refine ⟨after, own.value valuation, further, ?_, behind.between.trans between, ?_, ?_, ?_⟩
  · rw [leads.readBehind_eq, behind.position]
  · intro former holds
    refine behind.value_of_own ?_ holds
    unfold Scope.value at former
    rw [joined]
    exact Bool.or_eq_true_iff.mp former
  · intro divided
    by_cases conjoins : Conjoins text
    · rw [(whole conjoins).1] at divided
      exact .inl divided
    · have opened := behind.opened divided
      rw [joined] at opened
      refine opened.imp_right fun own => ⟨conjoins, ?_⟩
      unfold Scope.value
      rw [own, Bool.true_or]
  · intro last
    obtain ⟨held, operand⟩ := (Bool.and_eq_true _ _).mp last
    constructor
    · unfold Scope.value
      rw [← behind.operandValue_eq, behind.held held, operand, Bool.and_true, Bool.or_true]
    · by_cases conjoins : Conjoins text
      · exact .inl ((whole conjoins).2 held)
      · exact .inr conjoins

/-- The texts that follow, one after another. A disjunction that is reached stays; a conjunction
that goes on has taken in every text since, unless one of them divides. -/
theorem Leads.followed (closing : ∀ text ∈ rest, Closes text) {start : Scope} :
    ∀ {first : List Char} {before : Scope}, Leads valuation start first before →
      before.between = false → ∃ after values,
        Leads valuation start (joinTexts (first :: rest)) after ∧
        readEach valuation (before.position + 1) rest = some values ∧
        (before.value valuation = true → values.all id = true → after.value valuation = true) ∧
        (after.value valuation = true → before.disjunction = true ∨
          (before.conjunction && before.operandValue valuation) = true ∧ values.all id = true ∨
          Divides rest values) := by
  induction rest with
  | nil =>
      intro first before leads _
      refine ⟨before, [], ?_, rfl, fun holds _ => holds, fun holds => ?_⟩
      · rw [joinTexts, List.flatMap_nil, List.append_nil]
        exact leads
      · unfold Scope.value at holds
        rcases Bool.or_eq_true_iff.mp holds with divided | last
        · exact .inl divided
        · exact .inr (.inl ⟨last, rfl⟩)
  | cons text rest ih =>
      intro first before leads closed
      obtain ⟨own, others⟩ := List.forall_mem_cons.mp closing
      obtain ⟨middle, value, joins⟩ := own.joins valuation closed
      obtain ⟨after, values, whole, each, kept, back⟩ :=
        ih others (leads.combine .and joins.leads) joins.between
      have regrouped : joinTexts (first :: text :: rest) =
          joinTexts ((first ++ ((" " ++ Combinator.and.text ++ " ").toList ++ text)) :: rest) := by
        simp only [joinTexts, List.flatMap_cons, List.append_assoc]
      rw [← regrouped] at whole
      refine ⟨after, value :: values, whole, readEach_cons joins.read each, ?_, ?_⟩
      -- What decides at the end was decided up to this text, or is decided by it and those behind.
      · intro holds all
        rw [List.all_cons, Bool.and_eq_true] at all
        exact kept (joins.kept holds all.1) all.2
      · intro holds
        rcases back holds with divided | ⟨last, all⟩ | later
        · rcases joins.opened divided with earlier | ⟨other, true⟩
          · exact .inl earlier
          · rw [true]
            exact .inr (.inr (Divides.here other))
        · obtain ⟨true, earlier | other⟩ := joins.held last
          · refine .inr (.inl ⟨earlier, ?_⟩)
            rw [List.all_cons, true, all]
            rfl
          · rw [true]
            exact .inr (.inr (Divides.here other))
        · exact .inr (.inr (later.later value))

theorem conjunction_of_closes {texts : List (List Char)} (some : texts ≠ [])
    (closing : ∀ text ∈ texts, Closes text) (valuation : Valuation) :
    Conjunction valuation texts := by
  obtain ⟨first, rest, rfl⟩ := List.exists_cons_of_ne_nil some
  obtain ⟨initial, others⟩ := List.forall_mem_cons.mp closing
  obtain ⟨own, leads, between⟩ := initial valuation {} rfl
  obtain ⟨after, values, whole, each, kept, back⟩ := leads.followed others between
  refine ⟨_, _, own.value valuation :: values, whole.readCondition_eq,
    readEach_cons leads.readBehind_eq each, ?_, ?_⟩
  · intro all
    rw [List.all_cons, Bool.and_eq_true] at all
    exact kept all.1 all.2
  · intro holds
    have single : own.disjunction = true → ¬Conjoins first := by
      intro divided conjoins
      obtain ⟨other, again, _, same, _⟩ := conjoins valuation {} rfl
      rw [again.unique leads, divided] at same
      cases same
    have value : own.disjunction = true ∨
        (own.conjunction && own.operandValue valuation) = true → own.value valuation = true :=
      Bool.or_eq_true_iff.mpr
    rcases back holds with divided | ⟨last, all⟩ | later
    · rw [value (.inl divided)]
      exact .inr (Divides.here (single divided))
    · left
      rw [List.all_cons, value (.inr last), all]
      rfl
    · exact .inr (later.later _)

theorem Conjunction.exact {texts : List (List Char)} (conjunction : Conjunction valuation texts)
    (kept : (∀ text ∈ texts, Conjoins text) ∨ texts.length = 1) :
    ∃ count values, readEach valuation 0 texts = some values ∧
      readCondition valuation (joinTexts texts) = some (values.all id, count) := by
  obtain ⟨value, count, values, whole, each, widened, back⟩ := conjunction
  rcases kept with conjoins | single
  · have all : value = true → values.all id = true := by
      intro holds
      refine (back holds).resolve_right ?_
      rintro ⟨⟨text, own⟩, member, other, _⟩
      exact other (conjoins text (List.of_mem_zip member).1)
    refine ⟨count, values, each, ?_⟩
    rw [whole, Bool.eq_iff_iff.mpr ⟨all, widened⟩]
  · obtain ⟨text, same⟩ := List.length_eq_one_iff.mp single
    subst same
    rw [joinTexts, List.flatMap_nil, List.append_nil] at whole
    rw [← readBehind_zero] at whole
    refine ⟨count, [value], readEach_cons whole rfl, ?_⟩
    rw [joinTexts, List.flatMap_nil, List.append_nil, ← readBehind_zero, whole, List.all_cons,
      List.all_nil, Bool.and_true]
    rfl

end

end BoundQuery
