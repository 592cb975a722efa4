import BoundQuery.Text.Blank
import BoundQuery.Text.Search

/-!
How the text of a condition is read. Outside of quotes and parentheses `AND` joins its operands
tighter than `OR` does, and the `AND` that follows a `BETWEEN` belongs to the operand. An operand
that is nothing but a pair of parentheses has the value of the condition inside; any other operand
is true or false as a valuation says.
-/

set_option autoImplicit false

namespace BoundQuery

/-- Which operands hold, by the number of operands before them and by their text. A condition in
parentheses may be given a value as a whole; without one it is read. -/
structure Valuation where
  operand : Nat → List Char → Bool
  enclosed : Nat → List Char → Option Bool := fun _ _ => none

inductive Form where
  | empty
  | enclosed (value : Bool)
  | written

/-- A condition as far as it has been read, up to the end of the text or the closing parenthesis.
Characters are collected in reverse order; the position is the number of operands before this one
in the whole text. -/
structure Scope where
  position : Nat := 0
  text : List Char := []
  operand : List Char := []
  form : Form := .empty
  between : Bool := false
  conjunction : Bool := true
  disjunction : Bool := false

namespace Scope

variable (valuation : Valuation)

def operandValue (scope : Scope) : Bool :=
  match scope.form with
  | .enclosed value => value
  | _ => valuation.operand scope.position (Text.trimChars scope.operand.reverse)

def value (scope : Scope) : Bool :=
  scope.disjunction || (scope.conjunction && scope.operandValue valuation)

def add (scope : Scope) (chars : List Char) : Scope :=
  { scope with
    text := chars.reverse ++ scope.text
    operand := chars.reverse ++ scope.operand
    form := .written }

/-- White space does not change what an operand is. -/
def addBlank (scope : Scope) (char : Char) : Scope :=
  { scope with text := char :: scope.text, operand := char :: scope.operand }

def addWord (scope : Scope) (word : List Char) : Scope :=
  if Text.equalsIgnoringCase word "AND".toList then
    if scope.between then { scope.add word with between := false }
    else
      { position := scope.position + 1
        text := word.reverse ++ scope.text
        conjunction := scope.conjunction && scope.operandValue valuation
        disjunction := scope.disjunction }
  else if Text.equalsIgnoringCase word "OR".toList then
    { position := scope.position + 1
      text := word.reverse ++ scope.text
      disjunction := scope.value valuation }
  else if Text.equalsIgnoringCase word "BETWEEN".toList then
    { scope.add word with between := true }
  else scope.add word

def enclose (outer inner : Scope) : Scope :=
  { outer with
    position := inner.position
    text := ')' :: inner.text ++ '(' :: outer.text
    operand := ')' :: inner.text ++ '(' :: outer.operand
    form :=
      match outer.form with
      | .empty =>
          .enclosed ((valuation.enclosed outer.position inner.text.reverse).getD
            (inner.value valuation))
      | _ => .written }

end Scope

inductive Quote where
  | single
  | double
  | back
  | bracket
deriving DecidableEq

def Quote.closing : Quote → Char
  | single => '\''
  | double => '"'
  | back => '\x60'
  | bracket => ']'

inductive Kind where
  | part
  | opening
  | closing
  | quote (quote : Quote)
  | blank
  | other

def kindOf (char : Char) : Kind :=
  if Text.isNamePart char then .part
  else if Text.isBlank char then .blank
  else if char == '(' then .opening
  else if char == ')' then .closing
  else if char == '\'' then .quote .single
  else if char == '"' then .quote .double
  else if char == '\x60' then .quote .back
  else if char == '[' then .quote .bracket
  else .other

/-- The letters of a word are collected in reverse order until it is known to be whole. -/
inductive Mode where
  | plain
  | word (letters : List Char)
  | quoted (quote : Quote)

structure ConditionReader where
  mode : Mode := .plain
  scope : Scope := {}
  outer : List Scope := []

namespace ConditionReader

variable (valuation : Valuation)

def letters (reader : ConditionReader) : List Char :=
  match reader.mode with
  | .word letters => letters
  | _ => []

/-- A word ends before anything that is no part of a name. -/
def settle (reader : ConditionReader) : ConditionReader :=
  match reader.mode with
  | .word letters =>
      { reader with mode := .plain, scope := reader.scope.addWord valuation letters.reverse }
  | _ => reader

def stepApart (reader : ConditionReader) (kind : Kind) (char : Char) : Option ConditionReader :=
  match kind with
  | .opening =>
      some { scope := { position := reader.scope.position }, outer := reader.scope :: reader.outer }
  | .closing =>
      match reader.outer with
      | [] => none
      | scope :: outer => some { scope := scope.enclose valuation reader.scope, outer := outer }
  | .quote quote => some { reader with mode := .quoted quote, scope := reader.scope.add [char] }
  | .blank => some { reader with scope := reader.scope.addBlank char }
  | _ => some { reader with scope := reader.scope.add [char] }

def step (reader : ConditionReader) (char : Char) : Option ConditionReader :=
  match reader.mode with
  | .quoted quote =>
      some { reader with
        mode := if char == quote.closing then .plain else .quoted quote
        scope := reader.scope.add [char] }
  | _ =>
      match kindOf char with
      | .part => some { reader with mode := .word (char :: reader.letters) }
      | kind => (reader.settle valuation).stepApart valuation kind char

def run : ConditionReader → List Char → Option ConditionReader
  | reader, [] => some reader
  | reader, char :: rest =>
      match reader.step valuation char with
      | some next => run next rest
      | none => none

end ConditionReader

/-- The value of a condition and the number of its operands; none where a quotation or a parenthesis
is left open, or a parenthesis is closed that was not opened. -/
def readCondition (valuation : Valuation) (text : List Char) : Option (Bool × Nat) :=
  match (ConditionReader.run valuation {} text).map (ConditionReader.settle valuation) with
  | some ⟨.plain, scope, []⟩ => some (scope.value valuation, scope.position + 1)
  | _ => none

/-! ### Texts in sequence -/

namespace ConditionReader

variable {valuation : Valuation} {reader next : ConditionReader}

theorem step_cases {char : Char} (stepped : reader.step valuation char = some next) :
    (∃ quote, reader.mode = .quoted quote ∧
      next = { reader with
        mode := if char == quote.closing then .plain else .quoted quote
        scope := reader.scope.add [char] }) ∨
    (∀ quote, reader.mode ≠ .quoted quote) ∧
      (kindOf char = .part ∧ next = { reader with mode := .word (char :: reader.letters) } ∨
        kindOf char ≠ .part ∧
          (reader.settle valuation).stepApart valuation (kindOf char) char = some next) := by
  unfold step at stepped
  split at stepped
  · rename_i quote quoted
    exact .inl ⟨quote, quoted, (Option.some.inj stepped).symm⟩
  · rename_i unquoted
    refine .inr ⟨unquoted, ?_⟩
    split at stepped
    · rename_i kind
      exact .inl ⟨kind, (Option.some.inj stepped).symm⟩
    · rename_i other
      exact .inr ⟨other, stepped⟩

theorem run_cons_some {char : Char} {rest : List Char}
    (done : run valuation reader (char :: rest) = some next) :
    ∃ middle, reader.step valuation char = some middle ∧ run valuation middle rest = some next := by
  unfold run at done
  split at done
  · rename_i middle stepped
    exact ⟨middle, stepped, done⟩
  · cases done

theorem run_append (first second : List Char) : ∀ reader : ConditionReader,
    run valuation reader (first ++ second) =
      (run valuation reader first).bind (fun next => run valuation next second) := by
  induction first with
  | nil => exact fun reader => rfl
  | cons char rest ih =>
      intro reader
      rw [List.cons_append, run, run]
      cases reader.step valuation char with
      | none => rfl
      | some next => exact ih next

def beneath (reader : ConditionReader) (outer : List Scope) : ConditionReader :=
  { reader with outer := reader.outer ++ outer }

theorem settle_beneath (reader : ConditionReader) (outer : List Scope) :
    (reader.beneath outer).settle valuation = (reader.settle valuation).beneath outer := by
  obtain ⟨mode, scope, scopes⟩ := reader
  cases mode with
  | _ => rfl

theorem stepApart_beneath (outer : List Scope) {kind : Kind} {char : Char}
    (stepped : reader.stepApart valuation kind char = some next) :
    (reader.beneath outer).stepApart valuation kind char = some (next.beneath outer) := by
  obtain ⟨mode, scope, scopes⟩ := reader
  cases kind with
  | closing =>
      cases scopes with
      | nil => cases stepped
      | cons first rest =>
          cases stepped
          rfl
  | _ =>
      cases stepped
      rfl

theorem step_beneath (outer : List Scope) {char : Char}
    (stepped : reader.step valuation char = some next) :
    (reader.beneath outer).step valuation char = some (next.beneath outer) := by
  obtain ⟨mode, scope, scopes⟩ := reader
  cases mode with
  | quoted quote =>
      cases stepped
      rfl
  | _ =>
      unfold step at stepped ⊢
      cases kind : kindOf char with
      | part =>
          rw [kind] at stepped
          cases stepped
          rfl
      | _ =>
          rw [kind] at stepped
          exact stepApart_beneath outer stepped

theorem run_beneath (outer : List Scope) (text : List Char) :
    ∀ {reader next : ConditionReader}, run valuation reader text = some next →
      run valuation (reader.beneath outer) text = some (next.beneath outer) := by
  induction text with
  | nil =>
      intro reader next done
      cases done
      rfl
  | cons char rest ih =>
      intro reader next done
      obtain ⟨middle, stepped, further⟩ := run_cons_some done
      unfold run
      rw [step_beneath outer stepped]
      exact ih further

def written (reader : ConditionReader) : List Char :=
  reader.letters ++ reader.scope.text ++ reader.outer.flatMap (fun scope => '(' :: scope.text)

theorem addWord_text (scope : Scope) (word : List Char) :
    (scope.addWord valuation word).text = word.reverse ++ scope.text := by
  unfold Scope.addWord
  split
  · split
    · rfl
    · rfl
  · split
    · rfl
    · split
      · rfl
      · rfl

theorem settle_written (reader : ConditionReader) :
    (reader.settle valuation).written = reader.written := by
  obtain ⟨mode, scope, scopes⟩ := reader
  cases mode with
  | word letters =>
      unfold settle written
      dsimp only
      rw [addWord_text, List.reverse_reverse]
      rfl
  | _ => rfl

theorem settle_letters (reader : ConditionReader) : (reader.settle valuation).letters = [] := by
  obtain ⟨mode, scope, scopes⟩ := reader
  cases mode with
  | _ => rfl

theorem kindOf_parenthesis (char : Char) :
    (kindOf char = .opening → char = '(') ∧ (kindOf char = .closing → char = ')') := by
  unfold kindOf
  split
  · exact ⟨nofun, nofun⟩
  · split
    · exact ⟨nofun, nofun⟩
    · split
      · rename_i same
        exact ⟨fun _ => beq_iff_eq.mp same, nofun⟩
      · split
        · rename_i same
          exact ⟨nofun, fun _ => beq_iff_eq.mp same⟩
        · repeat' split
          all_goals exact ⟨nofun, nofun⟩

theorem stepApart_written {kind : Kind} {char : Char} (settled : reader.letters = [])
    (shown : kindOf char = kind)
    (stepped : reader.stepApart valuation kind char = some next) :
    next.written = char :: reader.written := by
  obtain ⟨opens, closes⟩ := kindOf_parenthesis char
  unfold written
  rw [settled]
  cases kind with
  | opening =>
      cases stepped
      rw [opens shown]
      rfl
  | closing =>
      obtain ⟨mode, scope, scopes⟩ := reader
      cases scopes with
      | nil => cases stepped
      | cons first rest =>
          cases stepped
          rw [closes shown]
          simp [letters, Scope.enclose]
  | quote quote =>
      cases stepped
      rfl
  | _ =>
      cases stepped
      have plain : reader.letters = [] := settled
      unfold letters at plain ⊢
      simp only [plain]
      rfl

theorem step_written {char : Char} (stepped : reader.step valuation char = some next) :
    next.written = char :: reader.written := by
  rcases step_cases stepped with ⟨quote, quoted, rfl⟩ | ⟨_, ⟨_, rfl⟩ | ⟨_, apart⟩⟩
  · by_cases closes : (char == quote.closing) = true
    · simp only [written, letters, quoted, closes]
      rfl
    · simp only [written, letters, quoted, closes]
      rfl
  · rfl
  · rw [stepApart_written reader.settle_letters rfl apart, settle_written]

theorem run_written (text : List Char) : ∀ {reader next : ConditionReader},
    run valuation reader text = some next → next.written = text.reverse ++ reader.written := by
  induction text with
  | nil =>
      intro reader next done
      cases done
      rfl
  | cons char rest ih =>
      intro reader next done
      obtain ⟨middle, stepped, further⟩ := run_cons_some done
      rw [ih further, step_written stepped, List.reverse_cons, List.append_assoc]
      rfl

end ConditionReader

/-! ### Closed texts -/

/-- Read from one scope, a text whose quotes and parentheses are all closed leads to another. -/
def Leads (valuation : Valuation) (before : Scope) (text : List Char) (after : Scope) : Prop :=
  ∃ reader, ConditionReader.run valuation { scope := before } text = some reader ∧
    reader.settle valuation = { scope := after }

/-- Two texts between which no word goes on. -/
def Apart (first second : List Char) : Prop :=
  (∀ char, first.getLast? = some char → Text.isNamePart char = false) ∨
    ∀ char, second.head? = some char → Text.isNamePart char = false

namespace ConditionReader

variable {valuation : Valuation} {reader next : ConditionReader}

theorem kindOf_ne_part {char : Char} (apart : Text.isNamePart char = false) :
    kindOf char ≠ .part := by
  unfold kindOf
  rw [apart, if_neg Bool.false_ne_true]
  repeat' split
  all_goals nofun

def Whole (reader : ConditionReader) : Prop :=
  ∀ letters, reader.mode ≠ .word letters

theorem settle_whole (reader : ConditionReader) : (reader.settle valuation).Whole := by
  obtain ⟨mode, scope, scopes⟩ := reader
  cases mode with
  | _ => exact fun letters => nofun

theorem Whole.settle (whole : reader.Whole) : reader.settle valuation = reader := by
  obtain ⟨mode, scope, scopes⟩ := reader
  cases mode with
  | word letters => exact absurd rfl (whole letters)
  | _ => rfl

theorem stepApart_whole (whole : reader.Whole) {kind : Kind} {char : Char}
    (stepped : reader.stepApart valuation kind char = some next) : next.Whole := by
  obtain ⟨mode, scope, scopes⟩ := reader
  cases kind with
  | closing =>
      cases scopes with
      | nil => cases stepped
      | cons first rest =>
          cases stepped
          exact fun letters => nofun
  | opening =>
      cases stepped
      exact fun letters => nofun
  | quote quote =>
      cases stepped
      exact fun letters => nofun
  | _ =>
      cases stepped
      exact whole

theorem step_whole {char : Char} (apart : Text.isNamePart char = false)
    (stepped : reader.step valuation char = some next) : next.Whole := by
  rcases step_cases stepped with ⟨quote, _, rfl⟩ | ⟨_, ⟨part, _⟩ | ⟨_, own⟩⟩
  · intro letters
    dsimp only
    split
    · nofun
    · nofun
  · exact absurd part (kindOf_ne_part apart)
  · exact stepApart_whole reader.settle_whole own

theorem step_settle {char : Char} (apart : Text.isNamePart char = false) {scope : Scope}
    {outer : List Scope} (settled : reader.settle valuation = { scope := scope, outer := outer }) :
    reader.step valuation char =
      ({ scope := scope, outer := outer } : ConditionReader).step valuation char := by
  rw [← settled]
  have kind := kindOf_ne_part apart
  obtain ⟨mode, own, scopes⟩ := reader
  cases mode with
  | quoted quote => cases settled
  | plain => rfl
  | word letters =>
      unfold step settle
      dsimp only
      cases found : kindOf char with
      | part => exact absurd found kind
      | _ => rfl

theorem run_whole {text : List Char}
    (ends : ∀ char, text.getLast? = some char → Text.isNamePart char = false)
    (start : reader.Whole) (done : run valuation reader text = some next) : next.Whole := by
  rcases List.eq_nil_or_concat text with rfl | ⟨front, last, rfl⟩
  · cases done
    exact start
  · rw [List.concat_eq_append] at done ends
    rw [run_append] at done
    obtain ⟨middle, _, further⟩ := Option.bind_eq_some_iff.mp done
    obtain ⟨reached, stepped, same⟩ := run_cons_some further
    cases same
    exact step_whole (ends last List.getLast?_concat) stepped

end ConditionReader

namespace Leads

variable {valuation : Valuation} {before middle after : Scope} {first second text : List Char}

theorem append (left : Leads valuation before first middle)
    (right : Leads valuation middle second after) (apart : Apart first second) :
    Leads valuation before (first ++ second) after := by
  obtain ⟨reader, run, settled⟩ := left
  obtain ⟨last, further, reached⟩ := right
  have joined : ConditionReader.run valuation { scope := before } (first ++ second) =
      ConditionReader.run valuation reader second := by
    rw [ConditionReader.run_append, run]
    rfl
  cases second with
  | nil =>
      cases further
      refine ⟨reader, joined, ?_⟩
      rw [settled]
      exact reached
  | cons char rest =>
      rcases apart with ends | starts
      · have whole : reader.Whole :=
          ConditionReader.run_whole ends (fun letters same => by cases same) run
        rw [whole.settle] at settled
        rw [settled] at joined
        exact ⟨last, joined.trans further, reached⟩
      · refine ⟨last, joined.trans ?_, reached⟩
        rw [ConditionReader.run, ConditionReader.step_settle (starts char rfl) settled]
        exact further

theorem enclosed (before : Scope)
    (inner : Leads valuation { position := before.position } text after) :
    Leads valuation before ('(' :: text ++ [')']) (before.enclose valuation after) := by
  obtain ⟨reader, run, settled⟩ := inner
  have deeper := ConditionReader.run_beneath [before] text run
  have below : (reader.beneath [before]).settle valuation =
      { scope := after, outer := [before] } := by
    rw [ConditionReader.settle_beneath, settled]
    rfl
  have closing : (reader.beneath [before]).step valuation ')' =
      some { scope := before.enclose valuation after } :=
    ConditionReader.step_settle (by decide) below
  refine ⟨{ scope := before.enclose valuation after }, ?_, rfl⟩
  have opened : ConditionReader.run valuation { scope := before } ('(' :: text ++ [')']) =
      ConditionReader.run valuation
        { scope := { position := before.position }, outer := [before] } (text ++ [')']) := rfl
  have closed : ConditionReader.run valuation (reader.beneath [before]) [')'] =
      some { scope := before.enclose valuation after } := by
    unfold ConditionReader.run
    rw [closing]
    rfl
  have inside : ConditionReader.run valuation
      { scope := { position := before.position }, outer := [before] } text =
        some (reader.beneath [before]) := deeper
  rw [opened, ConditionReader.run_append, inside]
  exact closed

theorem text_eq (leads : Leads valuation before text after) :
    after.text = text.reverse ++ before.text := by
  obtain ⟨reader, run, settled⟩ := leads
  have written := ConditionReader.run_written text run
  rw [← reader.settle_written, settled] at written
  simpa [ConditionReader.written, ConditionReader.letters] using written

theorem readCondition_eq (leads : Leads valuation {} text after) :
    readCondition valuation text = some (after.value valuation, after.position + 1) := by
  obtain ⟨reader, run, settled⟩ := leads
  unfold readCondition
  rw [run, Option.map_some, settled]

end Leads

end BoundQuery
