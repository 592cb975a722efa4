import BoundQuery.Builder.Filter
import BoundQuery.Proofs.Outline
import BoundQuery.Proofs.PlainNames

/-!
Phrases: texts that are nothing but part of an operand wherever they stand. Names, placeholders and
the date expressions of all the built-in dialects are phrases, and whatever spells them as phrases
can be read.
-/

set_option autoImplicit false

namespace BoundQuery

/-- Read anywhere, the text is added to the operand and does nothing else. -/
def Phrase (text : List Char) : Prop :=
  ∀ valuation before, Leads valuation before text (before.add text)

theorem Scope.add_add (scope : Scope) (first second : List Char) :
    (scope.add first).add second = scope.add (first ++ second) := by
  simp [Scope.add]

theorem Scope.enclose_add (valuation : Valuation) (scope : Scope) (first second : List Char) :
    (scope.add first).enclose valuation (({ position := scope.position } : Scope).add second) =
      scope.add (first ++ ('(' :: second ++ [')'])) := by
  simp [Scope.add, Scope.enclose]

namespace Phrase

variable {first second : List Char}

theorem append (left : Phrase first) (right : Phrase second) (apart : Apart first second) :
    Phrase (first ++ second) := by
  intro valuation before
  have whole := (left valuation before).append (right valuation _) apart
  rw [Scope.add_add] at whole
  exact whole

theorem then_phrase (left : Phrase first) (right : Phrase second)
    (ends : ∀ char, first.getLast? = some char → Text.isNamePart char = false) :
    Phrase (first ++ second) :=
  left.append right (.inl ends)

theorem before_phrase (left : Phrase first) (right : Phrase second)
    (starts : ∀ char, second.head? = some char → Text.isNamePart char = false) :
    Phrase (first ++ second) :=
  left.append right (.inr starts)

theorem call (name : Phrase first) (inner : Phrase second) :
    Phrase (first ++ ('(' :: second ++ [')'])) := by
  intro valuation before
  have inside := Leads.enclosed (before.add first) (inner valuation { position := before.position })
  rw [Scope.enclose_add] at inside
  have apart : Apart first ('(' :: second ++ [')']) := by
    right
    intro char head
    cases head
    decide
  exact (name valuation before).append inside apart

theorem call_nothing (name : Phrase first) : Phrase (first ++ "()".toList) := by
  intro valuation before
  have nothing :
      Leads valuation { position := before.position } [] { position := before.position } :=
    ⟨_, rfl, rfl⟩
  have inside := Leads.enclosed (before.add first) nothing
  have added : (before.add first).enclose valuation { position := before.position } =
      before.add (first ++ "()".toList) := by
    simp [Scope.add, Scope.enclose]
  rw [added] at inside
  have apart : Apart first "()".toList := by
    right
    intro char head
    cases head
    decide
  exact (name valuation before).append inside apart

end Phrase

/-! ### Texts without marks -/

def isConnective (word : List Char) : Bool :=
  ["AND", "OR", "BETWEEN"].any (fun keyword => Text.equalsIgnoringCase word keyword.toList)

/-- No quotation, no parenthesis and no connective. The letters of the word before come in reverse
order. -/
def isFlat : List Char → List Char → Bool
  | letters, [] => !isConnective letters.reverse
  | letters, char :: rest =>
      if Text.isNamePart char then isFlat (char :: letters) rest
      else !isMark char && !isConnective letters.reverse && isFlat [] rest

def Scope.extend (scope : Scope) (chars : List Char) : Scope :=
  if chars.all Text.isBlank then
    { scope with text := chars.reverse ++ scope.text, operand := chars.reverse ++ scope.operand }
  else scope.add chars

theorem Scope.extend_extend (scope : Scope) (first second : List Char) :
    (scope.extend first).extend second = scope.extend (first ++ second) := by
  unfold extend
  rw [List.all_append]
  by_cases blank : first.all Text.isBlank = true
  · by_cases more : second.all Text.isBlank = true
    · simp [blank, more]
    · simp [blank, more, Scope.add]
  · by_cases more : second.all Text.isBlank = true
    · simp [blank, more, Scope.add]
    · simp [blank, more, Scope.add]

theorem Scope.addWord_plain {word : List Char} (plain : isConnective word = false)
    (valuation : Valuation) (scope : Scope) : scope.addWord valuation word = scope.add word := by
  simp only [isConnective, List.any_cons, List.any_nil, Bool.or_false, Bool.or_eq_false_iff]
    at plain
  obtain ⟨first, second, third⟩ := plain
  unfold addWord
  rw [first, if_neg Bool.false_ne_true, second, if_neg Bool.false_ne_true, third,
    if_neg Bool.false_ne_true]

theorem isBlank_of_isNamePart {char : Char} (part : Text.isNamePart char = true) :
    Text.isBlank char = false := by
  have code := code_of_isNamePart part
  cases blank : Text.isBlank char with
  | false => rfl
  | true =>
      simp only [Text.isBlank, Bool.or_eq_true, Bool.and_eq_true, decide_eq_true_eq,
        beq_iff_eq] at blank
      omega

namespace ConditionReader

def amid (letters : List Char) (scope : Scope) : ConditionReader :=
  match letters with
  | [] => { scope := scope }
  | char :: others => { mode := .word (char :: others), scope := scope }

theorem settle_amid {letters : List Char} (inside : ∀ char ∈ letters, Text.isNamePart char = true)
    (plain : isConnective letters.reverse = false) (valuation : Valuation) (scope : Scope) :
    (amid letters scope).settle valuation = { scope := scope.extend letters.reverse } := by
  cases letters with
  | nil => rfl
  | cons char others =>
      have visible : (char :: others).reverse.all Text.isBlank = false := by
        rw [List.all_reverse, List.all_cons, isBlank_of_isNamePart (inside char List.mem_cons_self)]
        rfl
      have added : scope.extend (char :: others).reverse = scope.add (char :: others).reverse := by
        unfold Scope.extend
        rw [visible, if_neg Bool.false_ne_true]
      rw [added, ← Scope.addWord_plain plain valuation]
      rfl

theorem step_amid_part {char : Char} (part : Text.isNamePart char = true) (letters : List Char)
    (valuation : Valuation) (scope : Scope) :
    (amid letters scope).step valuation char = some (amid (char :: letters) scope) := by
  have kind : kindOf char = .part := by
    unfold kindOf
    rw [part, if_pos rfl]
  cases letters with
  | _ =>
      unfold step
      simp only [amid, kind]
      rfl

theorem step_apart {char : Char} (apart : Text.isNamePart char = false)
    (plain : isMark char = false) (valuation : Valuation) (scope : Scope) :
    step valuation { scope := scope } char = some { scope := scope.extend [char] } := by
  unfold step
  rw [kindOf_not_mark plain, apart, if_neg Bool.false_ne_true]
  cases blank : Text.isBlank char with
  | true =>
      have added : scope.extend [char] = scope.addBlank char := by
        simp [Scope.extend, Scope.addBlank, blank]
      rw [added]
      rfl
  | false =>
      have added : scope.extend [char] = scope.add [char] := by
        simp [Scope.extend, blank]
      rw [added]
      rfl

theorem run_flat (valuation : Valuation) (text : List Char) : ∀ (letters : List Char)
    (scope : Scope), (∀ char ∈ letters, Text.isNamePart char = true) →
      isFlat letters text = true → ∃ reader,
        run valuation (amid letters scope) text = some reader ∧
          reader.settle valuation = { scope := scope.extend (letters.reverse ++ text) } := by
  induction text with
  | nil =>
      intro letters scope inside flat
      have plain : isConnective letters.reverse = false := by simpa [isFlat] using flat
      rw [List.append_nil]
      exact ⟨_, rfl, settle_amid inside plain valuation scope⟩
  | cons char rest ih =>
      intro letters scope inside flat
      cases part : Text.isNamePart char with
      | true =>
          rw [isFlat, part, if_pos rfl] at flat
          have within : ∀ other ∈ char :: letters, Text.isNamePart other = true :=
            List.forall_mem_cons.mpr ⟨part, inside⟩
          obtain ⟨reader, reached, settled⟩ := ih (char :: letters) scope within flat
          refine ⟨reader, ?_, ?_⟩
          · rw [run, step_amid_part part]
            exact reached
          · rw [settled, List.reverse_cons, List.append_assoc]
            rfl
      | false =>
          rw [isFlat, part, if_neg Bool.false_ne_true] at flat
          simp only [Bool.and_eq_true, Bool.not_eq_true'] at flat
          obtain ⟨⟨mark, plain⟩, flat⟩ := flat
          let behind := (scope.extend letters.reverse).extend [char]
          obtain ⟨reader, reached, settled⟩ := ih [] behind (List.forall_mem_nil _) flat
          refine ⟨reader, ?_, ?_⟩
          · have stepped : (amid letters scope).step valuation char = some { scope := behind } := by
              rw [step_settle part (settle_amid inside plain valuation scope),
                step_apart part mark]
            rw [run, stepped]
            exact reached
          · rw [settled, Scope.extend_extend, Scope.extend_extend]
            rfl

end ConditionReader

theorem Phrase.flat {text : List Char} (flat : isFlat [] text = true)
    (some : text.all Text.isBlank = false) : Phrase text := by
  intro valuation before
  obtain ⟨reader, run, settled⟩ := ConditionReader.run_flat valuation text [] before nofun flat
  have added : before.extend text = before.add text := by
    unfold Scope.extend
    rw [some, if_neg Bool.false_ne_true]
  rw [List.reverse_nil, List.nil_append, added] at settled
  exact ⟨reader, run, settled⟩

theorem isFlat_word {text : List Char} (inside : ∀ char ∈ text, Text.isNamePart char = true) :
    ∀ letters, isFlat letters text = !isConnective (letters.reverse ++ text) := by
  induction text with
  | nil => simp [isFlat]
  | cons char rest ih =>
      intro letters
      rw [isFlat, inside char List.mem_cons_self, if_pos rfl,
        ih (fun other member => inside other (List.mem_cons_of_mem _ member)), List.reverse_cons,
        List.append_assoc]
      rfl

private theorem differs_at_start {char initial : Char} {rest : List Char} (word : List Char)
    (starts : (word.map Char.toLower).head? = some initial) (other : char.toLower ≠ initial) :
    Text.equalsIgnoringCase (char :: rest) word = false := by
  unfold Text.equalsIgnoringCase
  rw [beq_eq_false_iff_ne]
  intro same
  rw [← same] at starts
  exact other (Option.some.inj starts)

theorem Phrase.word {char : Char} {rest : List Char}
    (inside : ∀ other ∈ char :: rest, Text.isNamePart other = true)
    (initial : char.toLower ∉ ['a', 'o', 'b']) : Phrase (char :: rest) := by
  simp only [List.mem_cons, List.not_mem_nil, or_false, not_or] at initial
  obtain ⟨first, second, third⟩ := initial
  have plain : isConnective (char :: rest) = false := by
    unfold isConnective
    simp only [List.any_cons, List.any_nil]
    rw [differs_at_start "AND".toList rfl first, differs_at_start "OR".toList rfl second,
      differs_at_start "BETWEEN".toList rfl third]
    rfl
  apply Phrase.flat
  · rw [isFlat_word inside, List.reverse_nil, List.nil_append, plain]
    rfl
  · rw [List.all_cons, isBlank_of_isNamePart (inside char List.mem_cons_self)]
    rfl

private theorem run_quoted (valuation : Valuation) (before : Scope) (quote : Quote)
    {body : List Char} (inside : quote.closing ∉ body) (front : List Char) :
    ConditionReader.run valuation { mode := .quoted quote, scope := before.add front }
        (body ++ [quote.closing]) =
      some { scope := before.add (front ++ (body ++ [quote.closing])) } := by
  induction body generalizing front with
  | nil =>
      simp only [List.nil_append, ConditionReader.run, ConditionReader.step, beq_self_eq_true,
        if_true, Scope.add_add]
  | cons char rest ih =>
      obtain ⟨other, further⟩ := not_or.mp (List.mem_cons.not.mp inside)
      have opened : (char == quote.closing) = false := by
        simpa using Ne.symm other
      have more := ih further (front ++ [char])
      simp only [List.cons_append, ConditionReader.run, ConditionReader.step, opened,
        Bool.false_eq_true, if_false, Scope.add_add]
      rw [more, List.append_assoc]
      rfl

theorem Phrase.quoted {opening : Char} {quote : Quote} (opens : kindOf opening = .quote quote)
    {body : List Char} (inside : quote.closing ∉ body) :
    Phrase (opening :: (body ++ [quote.closing])) := by
  intro valuation before
  refine ⟨{ scope := before.add (opening :: (body ++ [quote.closing])) }, ?_, rfl⟩
  unfold ConditionReader.run ConditionReader.step
  simp only [opens]
  exact run_quoted valuation before quote inside [opening]

theorem digits_of_number (number : Nat) : ∃ first rest, (toString number).toList = first :: rest ∧
    ∀ char ∈ first :: rest, char.isDigit = true := by
  have text : (toString number).toList = Nat.toDigits 10 number := by
    rw [Nat.toString_eq_repr, Nat.repr, String.toList_ofList]
  cases digits : Nat.toDigits 10 number with
  | nil => exact absurd digits Nat.toDigits_ne_nil
  | cons first rest =>
      refine ⟨first, rest, by rw [text, digits], ?_⟩
      intro char member
      rw [← digits] at member
      exact Nat.isDigit_of_mem_toDigits (by decide) (by decide) member

theorem code_of_isDigit {char : Char} (digit : char.isDigit = true) :
    48 ≤ char.toNat ∧ char.toNat ≤ 57 := by
  have code : char.val.toNat = char.toNat := rfl
  have bounds : '0'.val.toNat = 48 ∧ '9'.val.toNat = 57 := by decide
  simp only [Char.isDigit, Bool.and_eq_true, decide_eq_true_eq, ge_iff_le,
    UInt32.le_iff_toNat_le] at digit
  omega

theorem ne_of_isDigit {char : Char} (digit : char.isDigit = true) {mark : Char}
    (outside : mark.toNat < 48 ∨ 57 < mark.toNat) : char ≠ mark := by
  have code := code_of_isDigit digit
  intro same
  rw [same] at code
  omega

theorem isNamePart_of_isDigit {char : Char} (digit : char.isDigit = true) :
    Text.isNamePart char = true := by
  simp [Text.isNamePart, Char.isAlphanum, digit]

theorem phrase_number (number : Nat) : Phrase (toString number).toList := by
  obtain ⟨first, rest, text, digits⟩ := digits_of_number number
  rw [text]
  refine Phrase.word (fun char member => isNamePart_of_isDigit (digits char member)) ?_
  have code := code_of_isDigit (digits first List.mem_cons_self)
  have lower : first.toLower.toNat = first.toNat := by
    rw [toNat_toLower, if_neg (by omega)]
  intro listed
  have bound : first.toLower.toNat ≤ 57 := by omega
  have large : ∀ char ∈ ['a', 'o', 'b'], decide (57 < char.toNat) = true :=
    List.all_eq_true.mp (by decide)
  have above := of_decide_eq_true (large _ listed)
  omega

variable {dialect : Dialect}

theorem marks_quote (dialect : Dialect) : ∃ quote : Quote,
    kindOf dialect.marks.1 = .quote quote ∧ dialect.marks.2 = quote.closing := by
  cases dialect with
  | postgresql => exact ⟨.double, rfl, rfl⟩
  | sqlite => exact ⟨.double, rfl, rfl⟩
  | mysql => exact ⟨.back, rfl, rfl⟩
  | mssql => exact ⟨.bracket, rfl, rfl⟩

theorem phrase_around {part : List Char} (plain : Identifier.isPlainPart part = true) :
    Phrase (around (some dialect.marks) part) := by
  obtain ⟨quote, opens, closes⟩ := marks_quote dialect
  have absent : quote.closing ∉ part := by
    rw [← closes]
    exact marks_not_mem plain
  have phrase := Phrase.quoted opens absent
  rw [← closes] at phrase
  exact phrase

theorem phrase_writtenName {part : List Char} {others : List (List Char)}
    (plain : ∀ other ∈ part :: others, Identifier.isPlainPart other = true) :
    Phrase (writtenName (some dialect.marks) (part :: others)) := by
  have point : Phrase ['.'] := Phrase.flat rfl rfl
  have each : ∀ others : List (List Char),
      (∀ other ∈ others, Identifier.isPlainPart other = true) → ∀ front, Phrase front →
        Phrase (front ++ others.flatMap
          (fun other => '.' :: around (some dialect.marks) other)) := by
    intro others
    induction others with
    | nil =>
        intro _ front phrase
        rw [List.flatMap_nil, List.append_nil]
        exact phrase
    | cons other rest ih =>
        intro plain front phrase
        have own : Phrase ('.' :: around (some dialect.marks) other) := by
          refine Phrase.then_phrase point (phrase_around (plain other List.mem_cons_self)) ?_
          intro char ending
          cases ending
          decide
        have joined := phrase.before_phrase own (fun char head => by cases head; decide)
        have more := ih (fun later member => plain later (List.mem_cons_of_mem _ member)) _ joined
        rw [List.flatMap_cons, ← List.append_assoc]
        exact more
  rw [writtenName_cons]
  exact each others (fun other member => plain other (List.mem_cons_of_mem _ member)) _
    (phrase_around (plain part List.mem_cons_self))

/-! ### Profiles whose spellings can be read -/

/-- Names, placeholders and date expressions are phrases; a placeholder holds no quotation mark and
no parenthesis. -/
structure Profile.Readable (profile : Profile) : Prop where
  column : ∀ name rendered, IsPlainName name → profile.column name = .ok rendered →
    Phrase rendered.toList
  placeholder : ∀ number, Phrase (profile.placeholder number).toList
  unmarked : ∀ number, ∀ char ∈ (profile.placeholder number).toList, isMark char = false
  extract : ∀ (part : DatePart) column, Phrase column.toList →
    Phrase (part.extract profile column).toList
  currentDate : Phrase profile.currentDate.toList
  dateMinusDays : ∀ days, Phrase (profile.dateMinusDays days).toList

namespace Dialect

theorem phrase_column (dialect : Dialect) {name rendered : String} (plain : IsPlainName name)
    (accepted : dialect.profile.column name = .ok rendered) : Phrase rendered.toList := by
  obtain ⟨part, others, split, plainParts⟩ := plain.parts
  rw [column_plain plain accepted, split]
  exact phrase_writtenName plainParts

theorem phrase_placeholder (dialect : Dialect) (number : Nat) :
    Phrase (dialect.placeholder number).toList := by
  have question : Phrase "?".toList := Phrase.flat rfl rfl
  cases dialect with
  | mysql => exact question
  | sqlite => exact question
  | postgresql =>
      have dollar : Phrase "$".toList := Phrase.flat rfl rfl
      unfold placeholder
      rw [String.toList_append]
      refine dollar.then_phrase (phrase_number number) ?_
      intro char ending
      cases ending
      decide
  | mssql =>
      have sign : Phrase "@".toList := Phrase.flat rfl rfl
      obtain ⟨first, rest, text, digits⟩ := digits_of_number number
      have inside : ∀ char ∈ 'P' :: first :: rest, Text.isNamePart char = true := by
        intro char member
        rcases List.mem_cons.mp member with rfl | digit
        · decide
        · exact isNamePart_of_isDigit (digits char digit)
      have split : (placeholder mssql number).toList = "@".toList ++ 'P' :: first :: rest := by
        unfold placeholder
        rw [String.toList_append, text]
        rfl
      rw [split]
      refine sign.then_phrase (Phrase.word inside (by decide)) ?_
      intro char ending
      cases ending
      decide

private theorem not_mark_of_digit {char : Char} (digit : char.isDigit = true) :
    isMark char = false :=
  isMark_of_apart (by decide) digit

theorem placeholder_unmarked (dialect : Dialect) (number : Nat) :
    ∀ char ∈ (dialect.placeholder number).toList, isMark char = false := by
  have digits : ∀ char ∈ (toString number).toList, isMark char = false := by
    obtain ⟨first, rest, text, digits⟩ := digits_of_number number
    rw [text]
    exact fun char member => not_mark_of_digit (digits char member)
  have numbered : ∀ sign : String, (∀ char ∈ sign.toList, isMark char = false) →
      ∀ char ∈ (sign ++ toString number).toList, isMark char = false := by
    intro sign own char member
    rw [String.toList_append] at member
    rcases List.mem_append.mp member with front | behind
    · exact own char front
    · exact digits char behind
  have question : ∀ char ∈ "?".toList, isMark char = false := List.forall_mem_singleton.mpr rfl
  cases dialect with
  | mysql => exact question
  | sqlite => exact question
  | postgresql => exact numbered "$" (List.forall_mem_singleton.mpr rfl)
  | mssql =>
      exact numbered "@P" (List.forall_mem_cons.mpr ⟨rfl, List.forall_mem_singleton.mpr rfl⟩)

variable {column : String}

private theorem phrase_cast {inner : List Char} (phrase : Phrase inner) (target : String)
    (named : Phrase (" AS " ++ target).toList) :
    Phrase ("CAST".toList ++ ('(' :: (inner ++ (" AS " ++ target).toList) ++ [')'])) := by
  have cast : Phrase "CAST".toList := Phrase.flat rfl rfl
  refine cast.call (phrase.before_phrase named ?_)
  intro char head
  rw [String.toList_append] at head
  cases head
  decide

private theorem phrase_called (phrase : Phrase column.toList) (name : String)
    (named : Phrase name.toList) : Phrase (name ++ "(" ++ column ++ ")").toList := by
  simpa [String.toList_append] using named.call phrase

private theorem phrase_extracted (phrase : Phrase column.toList) (lead : String)
    (led : Phrase lead.toList) (ends : lead.toList.getLast? = some ' ') :
    Phrase ("EXTRACT(" ++ lead ++ column ++ ")").toList := by
  have name : Phrase "EXTRACT".toList := Phrase.flat rfl rfl
  have arguments := led.then_phrase phrase (by
    intro char last
    rw [ends] at last
    cases last
    decide)
  simpa [String.toList_append] using name.call arguments

private theorem phrase_literal (body : String) (own : '\'' ∉ body.toList) :
    Phrase ("'" ++ body ++ "'").toList := by
  have opens : kindOf '\'' = .quote .single := rfl
  have quoted : Phrase ('\'' :: (body.toList ++ [Quote.closing .single])) :=
    Phrase.quoted opens own
  rw [String.toList_append, String.toList_append]
  exact quoted

private theorem phrase_formatted (phrase : Phrase column.toList) (format : String)
    (own : '\'' ∉ format.toList) :
    Phrase ("CAST(strftime('" ++ format ++ "', " ++ column ++ ") AS INTEGER)").toList := by
  have comma : Phrase ", ".toList := Phrase.flat rfl rfl
  have name : Phrase "strftime".toList := Phrase.flat rfl rfl
  have behind := comma.then_phrase phrase (fun char last => by cases last; decide)
  have arguments := (phrase_literal format own).before_phrase behind
    (fun char head => by cases head; decide)
  simpa [String.toList_append] using
    phrase_cast (name.call arguments) "INTEGER" (Phrase.flat rfl rfl)

theorem phrase_dateOf (dialect : Dialect) (phrase : Phrase column.toList) :
    Phrase (dialect.dateOf column).toList := by
  have converted : Phrase ("CAST(" ++ column ++ " AS DATE)").toList := by
    simpa [String.toList_append] using
      phrase_cast phrase "DATE" (Phrase.flat rfl rfl)
  have called := phrase_called phrase "DATE" (Phrase.flat rfl rfl)
  cases dialect with
  | postgresql => exact converted
  | mssql => exact converted
  | mysql => exact called
  | sqlite => exact called

theorem phrase_yearOf (dialect : Dialect) (phrase : Phrase column.toList) :
    Phrase (dialect.yearOf column).toList := by
  have called := phrase_called phrase "YEAR" (Phrase.flat rfl rfl)
  cases dialect with
  | postgresql =>
      exact phrase_extracted phrase "YEAR FROM " (Phrase.flat rfl rfl) rfl
  | mysql => exact called
  | mssql => exact called
  | sqlite => exact phrase_formatted phrase "%Y" (by decide)

theorem phrase_monthOf (dialect : Dialect) (phrase : Phrase column.toList) :
    Phrase (dialect.monthOf column).toList := by
  have called := phrase_called phrase "MONTH" (Phrase.flat rfl rfl)
  cases dialect with
  | postgresql =>
      exact phrase_extracted phrase "MONTH FROM " (Phrase.flat rfl rfl) rfl
  | mysql => exact called
  | mssql => exact called
  | sqlite => exact phrase_formatted phrase "%m" (by decide)

theorem phrase_dayOf (dialect : Dialect) (phrase : Phrase column.toList) :
    Phrase (dialect.dayOf column).toList := by
  have called := phrase_called phrase "DAY" (Phrase.flat rfl rfl)
  cases dialect with
  | postgresql =>
      exact phrase_extracted phrase "DAY FROM " (Phrase.flat rfl rfl) rfl
  | mysql => exact called
  | mssql => exact called
  | sqlite => exact phrase_formatted phrase "%d" (by decide)

private theorem phrase_today : Phrase "CAST(GETDATE() AS DATE)".toList := by
  have now : Phrase ("GETDATE".toList ++ "()".toList) :=
    (Phrase.flat rfl rfl).call_nothing
  exact phrase_cast now "DATE" (Phrase.flat rfl rfl)

theorem phrase_currentDate (dialect : Dialect) : Phrase dialect.currentDate.toList := by
  cases dialect with
  | postgresql => exact Phrase.flat rfl rfl
  | mysql =>
      have name : Phrase "CURDATE".toList := Phrase.flat rfl rfl
      exact name.call_nothing
  | sqlite =>
      have name : Phrase "DATE".toList := Phrase.flat rfl rfl
      exact name.call (phrase_literal "now" (by decide))
  | mssql => exact phrase_today

private theorem phrase_days (sign : String) (number : Nat) (own : '\'' ∉ sign.toList) :
    Phrase ("'" ++ (sign ++ toString number ++ " days") ++ "'").toList := by
  have digits : '\'' ∉ (toString number).toList := by
    obtain ⟨first, rest, text, digits⟩ := digits_of_number number
    rw [text]
    intro member
    exact absurd (digits _ member) (by decide)
  apply phrase_literal
  rw [String.toList_append, String.toList_append]
  intro member
  rcases List.mem_append.mp member with front | behind
  · rcases List.mem_append.mp front with first | second
    · exact own first
    · exact digits second
  · exact absurd behind (by decide)

theorem phrase_dateMinusDays (dialect : Dialect) (days : Nat) :
    Phrase (dialect.dateMinusDays days).toList := by
  have number := phrase_number days
  have quoted := phrase_days "" days (by decide)
  have negated := phrase_days "-" days (by decide)
  cases dialect with
  | postgresql =>
      change Phrase ("CURRENT_DATE - INTERVAL '" ++ toString days ++ " days'").toList
      generalize toString days = digits at number quoted negated ⊢
      have lead : Phrase "CURRENT_DATE - INTERVAL ".toList := Phrase.flat rfl rfl
      have whole := lead.then_phrase quoted (fun char last => by cases last; decide)
      simpa [String.toList_append] using whole
  | mysql =>
      change Phrase ("DATE_SUB(CURDATE(), INTERVAL " ++ toString days ++ " DAY)").toList
      generalize toString days = digits at number quoted negated ⊢
      have name : Phrase "DATE_SUB".toList := Phrase.flat rfl rfl
      have today : Phrase ("CURDATE".toList ++ "()".toList) :=
        (Phrase.flat rfl rfl).call_nothing
      have interval : Phrase ", INTERVAL ".toList := Phrase.flat rfl rfl
      have unit : Phrase " DAY".toList := Phrase.flat rfl rfl
      have behind := number.before_phrase unit (fun char head => by cases head; decide)
      have lead := interval.then_phrase behind (fun char last => by cases last; decide)
      have whole := name.call (today.before_phrase lead (fun char head => by cases head; decide))
      simpa [String.toList_append] using whole
  | sqlite =>
      change Phrase ("DATE('now', '-" ++ toString days ++ " days')").toList
      generalize toString days = digits at number quoted negated ⊢
      have name : Phrase "DATE".toList := Phrase.flat rfl rfl
      have comma : Phrase ", ".toList := Phrase.flat rfl rfl
      have behind := comma.then_phrase negated (fun char last => by cases last; decide)
      have whole := name.call ((phrase_literal "now" (by decide)).before_phrase behind
        (fun char head => by cases head; decide))
      simpa [String.toList_append] using whole
  | mssql =>
      change Phrase
        ("DATEADD(day, -" ++ toString days ++ ", CAST(GETDATE() AS DATE))").toList
      generalize toString days = digits at number quoted negated ⊢
      have name : Phrase "DATEADD".toList := Phrase.flat rfl rfl
      have lead : Phrase "day, -".toList := Phrase.flat rfl rfl
      have comma : Phrase ", ".toList := Phrase.flat rfl rfl
      have today := comma.then_phrase phrase_today (fun char last => by cases last; decide)
      have behind := number.before_phrase today (fun char head => by cases head; decide)
      have whole := name.call (lead.then_phrase behind (fun char last => by cases last; decide))
      simpa [String.toList_append] using whole

theorem readable (dialect : Dialect) : dialect.profile.Readable := by
  constructor
  · exact fun _ _ plain accepted => dialect.phrase_column plain accepted
  · exact dialect.phrase_placeholder
  · exact dialect.placeholder_unmarked
  · intro part column phrase
    cases part with
    | date => exact dialect.phrase_dateOf phrase
    | year => exact dialect.phrase_yearOf phrase
    | month => exact dialect.phrase_monthOf phrase
    | day => exact dialect.phrase_dayOf phrase
  · exact dialect.phrase_currentDate
  · exact dialect.phrase_dateMinusDays

end Dialect

end BoundQuery
