import BoundQuery.Proofs.Alignment
import BoundQuery.Proofs.Phrases

/-!
How conditions read one after another. What a condition of a builder says stays inside of it: its
own `OR` stands in parentheses and its `BETWEEN` has its `AND`, so that the combinators between
conditions mean what they say.
-/

set_option autoImplicit false

namespace BoundQuery

/-- Read as a condition or the end of one, the text closes all that it opens and owes no `AND` to a
`BETWEEN`. -/
def Closes (text : List Char) : Prop :=
  ∀ valuation before, before.between = false →
    ∃ after, Leads valuation before text after ∧ after.between = false

/-- No `OR` of the text joins it to what stands before it. -/
def Undivided (text : List Char) : Prop :=
  ∀ valuation before, before.between = false →
    ∃ after, Leads valuation before text after ∧ after.between = false ∧
      after.disjunction = before.disjunction

variable {first second text : List Char}

theorem Undivided.closes (undivided : Undivided text) : Closes text := by
  intro valuation before closed
  obtain ⟨after, leads, between, _⟩ := undivided valuation before closed
  exact ⟨after, leads, between⟩

theorem Phrase.undivided (phrase : Phrase text) : Undivided text :=
  fun valuation before closed => ⟨before.add text, phrase valuation before, closed, rfl⟩

theorem undivided_of_enclosed
    (inner : ∀ valuation position, ∃ after, Leads valuation { position := position } text after) :
    Undivided ('(' :: text ++ [')']) := by
  intro valuation before closed
  obtain ⟨after, leads⟩ := inner valuation before.position
  exact ⟨before.enclose valuation after, leads.enclosed before, closed, rfl⟩

def Scope.joined (scope : Scope) (valuation : Valuation) (combinator : Combinator) : Scope :=
  ((scope.addBlank ' ').addWord valuation combinator.text.toList).addBlank ' '

theorem leads_combinator (valuation : Valuation) (before : Scope) (combinator : Combinator) :
    Leads valuation before (" " ++ combinator.text ++ " ").toList
      (before.joined valuation combinator) := by
  cases combinator with
  | and => exact ⟨{ scope := before.joined valuation .and }, rfl, rfl⟩
  | or => exact ⟨{ scope := before.joined valuation .or }, rfl, rfl⟩

theorem trimChars_behind {blanks : List Char}
    (blank : ∀ char ∈ blanks, Text.isBlank char = true) (chars : List Char) :
    Text.trimChars (blanks ++ chars) = Text.trimChars chars := by
  unfold Text.trimChars Text.trimStartChars
  rw [List.dropWhile_append, List.dropWhile_eq_nil_iff.mpr blank]
  rfl

theorem trimChars_before {blanks : List Char}
    (blank : ∀ char ∈ blanks, Text.isBlank char = true) (chars : List Char) :
    Text.trimChars (chars ++ blanks) = Text.trimChars chars := by
  have reversed : ∀ char ∈ blanks.reverse, Text.isBlank char = true :=
    fun char member => blank char (List.mem_reverse.mp member)
  unfold Text.trimChars Text.trimStartChars Text.trimEndChars
  rw [List.dropWhile_append, List.dropWhile_eq_nil_iff.mpr blank]
  split
  · rename_i empty
    rw [List.isEmpty_iff.mp empty]
  · rw [List.reverse_append, List.dropWhile_append_of_pos reversed]

theorem trimChars_blank (chars : List Char) :
    Text.trimChars (chars ++ [' ']) = Text.trimChars chars := by
  have blank : [' '].all Text.isBlank = true := by decide
  exact trimChars_before (List.all_eq_true.mp blank) chars

theorem Scope.operandValue_addBlank (valuation : Valuation) (scope : Scope) :
    (scope.addBlank ' ').operandValue valuation = scope.operandValue valuation := by
  obtain ⟨position, text, operand, form, between, conjunction, disjunction⟩ := scope
  cases form with
  | enclosed value => rfl
  | _ =>
      unfold operandValue addBlank
      dsimp only
      rw [List.reverse_cons, trimChars_blank]

theorem Scope.joined_and {scope : Scope} (valuation : Valuation) (closed : scope.between = false) :
    scope.joined valuation .and =
      { position := scope.position + 1
        text := " AND ".toList.reverse ++ scope.text
        operand := [' ']
        conjunction := scope.conjunction && scope.operandValue valuation
        disjunction := scope.disjunction } := by
  have still : (scope.addBlank ' ').between = false := closed
  have word : Text.equalsIgnoringCase Combinator.and.text.toList "AND".toList = true := by decide
  unfold joined addWord
  rw [if_pos word, if_neg (by rw [still]; exact Bool.false_ne_true),
    scope.operandValue_addBlank valuation]
  rfl

theorem Scope.joined_between (scope : Scope) (valuation : Valuation) (combinator : Combinator)
    (closed : scope.between = false) :
    (scope.joined valuation combinator).between = false := by
  cases combinator with
  | and => rw [scope.joined_and valuation closed]
  | or => rfl

theorem Leads.combine {valuation : Valuation} {before middle after : Scope}
    (left : Leads valuation before first middle) (combinator : Combinator)
    (right : Leads valuation (middle.joined valuation combinator) second after) :
    Leads valuation before (first ++ ((" " ++ combinator.text ++ " ").toList ++ second)) after := by
  have starts : ∀ rest char, ((" " ++ combinator.text ++ " ").toList ++ rest).head? = some char →
      Text.isNamePart char = false := by
    intro rest char head
    cases combinator with
    | _ =>
        cases head
        decide
  have ends : ∀ char, (" " ++ combinator.text ++ " ").toList.getLast? = some char →
      Text.isNamePart char = false := by
    intro char last
    cases combinator with
    | _ =>
        cases last
        decide
  exact left.append ((leads_combinator valuation middle combinator).append right (.inl ends))
    (.inr (starts second))

theorem Closes.join (left : Closes first) (combinator : Combinator) (right : Closes second) :
    Closes (first ++ ((" " ++ combinator.text ++ " ").toList ++ second)) := by
  intro valuation before closed
  obtain ⟨middle, leads, between⟩ := left valuation before closed
  obtain ⟨after, further, last⟩ := right valuation (middle.joined valuation combinator)
    (middle.joined_between valuation combinator between)
  exact ⟨after, leads.combine combinator further, last⟩

theorem Undivided.and (left : Undivided first) (right : Undivided second) :
    Undivided (first ++ ((" " ++ Combinator.and.text ++ " ").toList ++ second)) := by
  intro valuation before closed
  obtain ⟨middle, leads, between, same⟩ := left valuation before closed
  obtain ⟨after, further, last, kept⟩ := right valuation (middle.joined valuation .and)
    (middle.joined_between valuation .and between)
  refine ⟨after, leads.combine .and further, last, ?_⟩
  rw [kept, middle.joined_and valuation between]
  exact same

theorem leads_between (negated : Bool) (valuation : Valuation) (before : Scope) :
    ∃ after, Leads valuation before
        (" " ++ (if negated then "NOT BETWEEN" else "BETWEEN") ++ " ").toList after ∧
      after.between = true ∧ after.disjunction = before.disjunction := by
  cases negated with
  | false => exact ⟨_, ⟨_, rfl, rfl⟩, rfl, rfl⟩
  | true => exact ⟨_, ⟨_, rfl, rfl⟩, rfl, rfl⟩

theorem joined_of_between {scope : Scope} (valuation : Valuation) (within : scope.between = true) :
    (scope.joined valuation .and).between = false ∧
      (scope.joined valuation .and).disjunction = scope.disjunction := by
  have word : Text.equalsIgnoringCase Combinator.and.text.toList "AND".toList = true := by decide
  have still : (scope.addBlank ' ').between = true := within
  unfold Scope.joined Scope.addWord
  rw [if_pos word, if_pos still]
  exact ⟨rfl, rfl⟩

theorem undivided_range {left low high : List Char} (negated : Bool) (operand : Phrase left)
    (lowest : Phrase low) (highest : Phrase high) :
    Undivided (left ++ ((" " ++ (if negated then "NOT BETWEEN" else "BETWEEN") ++ " ").toList ++
      (low ++ ((" " ++ Combinator.and.text ++ " ").toList ++ high)))) := by
  intro valuation before closed
  obtain ⟨within, opens, between, same⟩ := leads_between negated valuation (before.add left)
  obtain ⟨ends, kept⟩ := joined_of_between valuation
    (show (within.add low).between = true from between)
  have limits := (lowest valuation within).combine .and (highest valuation _)
  refine ⟨_, (operand valuation before).append (opens.append limits ?_) ?_, ends, ?_⟩
  · left
    intro char last
    cases negated with
    | _ =>
        cases last
        decide
  · right
    intro char head
    cases negated with
    | _ =>
        cases head
        decide
  · exact kept.trans same

/-! ### Conditions and chains -/

/-- The condition can be read, however its slots are numbered. -/
def Condition.Legible (profile : Profile) (condition : Condition) : Prop :=
  ∀ number, Undivided (Piece.writeFrom profile.placeholder number condition.pieces)

namespace Piece

variable {profile : Profile}

theorem writeFrom_enclosed (number : Nat) (pieces : List Piece) :
    writeFrom profile.placeholder number (enclosed pieces) =
      '(' :: writeFrom profile.placeholder number pieces ++ [')'] := by
  unfold enclosed
  rw [List.cons_append, writeFrom, writeFrom_append]
  rfl

theorem chain_concat (first last : Condition) (front : List Condition) :
    chain (first :: (front ++ [last])) =
      chain (first :: front) ++ .sql (" " ++ last.combinator.text ++ " ") :: last.pieces := by
  simp [chain]

theorem writeFrom_concat (number : Nat) (first last : Condition) (front : List Condition) :
    writeFrom profile.placeholder number (chain (first :: (front ++ [last]))) =
      writeFrom profile.placeholder number (chain (first :: front)) ++
        ((" " ++ last.combinator.text ++ " ").toList ++
          writeFrom profile.placeholder (number + (values (chain (first :: front))).length)
            last.pieces) := by
  rw [chain_concat, writeFrom_append]
  rfl

theorem writeFrom_single (number : Nat) (condition : Condition) :
    writeFrom profile.placeholder number (chain [condition]) =
      writeFrom profile.placeholder number condition.pieces := by
  simp [chain]

theorem closes_chain {first : Condition} {rest : List Condition} (own : first.Legible profile)
    (others : ∀ condition ∈ rest, condition.Legible profile) (number : Nat) :
    Closes (writeFrom profile.placeholder number (chain (first :: rest))) := by
  induction rest using List.reverseRecOn with
  | nil =>
      rw [writeFrom_single]
      exact (own number).closes
  | append_singleton front last ih =>
      obtain ⟨earlier, final⟩ := List.forall_mem_append.mp others
      have behind := final last List.mem_cons_self
        (number + (values (chain (first :: front))).length)
      rw [writeFrom_concat]
      exact (ih earlier).join last.combinator behind.closes

theorem undivided_chain {first : Condition} {rest : List Condition} (own : first.Legible profile)
    (others : ∀ condition ∈ rest, condition.Legible profile ∧ condition.combinator = .and)
    (number : Nat) : Undivided (writeFrom profile.placeholder number (chain (first :: rest))) := by
  induction rest using List.reverseRecOn with
  | nil =>
      rw [writeFrom_single]
      exact own number
  | append_singleton front last ih =>
      obtain ⟨earlier, final⟩ := List.forall_mem_append.mp others
      obtain ⟨behind, joined⟩ := final last List.mem_cons_self
      rw [writeFrom_concat, joined]
      exact (ih earlier).and (behind _)

end Piece

/-! ### Conditions of one column -/

namespace Condition

variable {profile : Profile} {combinator : Combinator} {left : String}

theorem legible_phrase {text : String} (phrase : Phrase text.toList) :
    (Condition.mk combinator [.sql text]).Legible profile := by
  intro number
  rw [Piece.writeFrom, Piece.writeFrom, List.append_nil]
  exact phrase.undivided

theorem legible_nullTest (phrase : Phrase left.toList) (negated : Bool) :
    (Condition.mk combinator
      [.sql (left ++ (if negated then " IS NOT NULL" else " IS NULL"))]).Legible profile := by
  apply legible_phrase
  have test : Phrase (if negated then " IS NOT NULL" else " IS NULL").toList := by
    cases negated with
    | _ => exact Phrase.flat rfl rfl
  rw [String.toList_append]
  refine phrase.before_phrase test ?_
  intro char head
  cases negated with
  | _ =>
      cases head
      decide

theorem phrase_compared (phrase : Phrase left.toList) (operator : Operator) {right : List Char}
    (other : Phrase right) :
    Phrase (left.toList ++ ((" " ++ operator.text ++ " ").toList ++ right)) := by
  have comparison : Phrase (" " ++ operator.text ++ " ").toList := by
    cases operator with
    | _ => exact Phrase.flat rfl rfl
  refine phrase.before_phrase (comparison.then_phrase other ?_) ?_
  · intro char last
    cases operator with
    | _ =>
        cases last
        decide
  · intro char head
    cases operator with
    | _ =>
        cases head
        decide

theorem phrase_comparison (readable : profile.Readable) (phrase : Phrase left.toList)
    (operator : Operator) (value : Value) (number : Nat) :
    Phrase (Piece.writeFrom profile.placeholder number
      [.sql (left ++ " " ++ operator.text ++ " "), .slot value]) := by
  have text : (left ++ " " ++ operator.text ++ " ").toList =
      left.toList ++ (" " ++ operator.text ++ " ").toList := by
    simp
  have whole := phrase_compared phrase operator (readable.placeholder number)
  rw [Piece.writeFrom, Piece.writeFrom, Piece.writeFrom, text, List.append_nil, List.append_assoc]
  exact whole

theorem legible_comparison (readable : profile.Readable) (phrase : Phrase left.toList)
    (operator : Operator) (value : Value) :
    (Condition.mk combinator [.sql (left ++ " " ++ operator.text ++ " "), .slot value]).Legible
      profile :=
  fun number => (phrase_comparison readable phrase operator value number).undivided

theorem legible_against (phrase : Phrase left.toList) (operator : Operator) {right : String}
    (other : Phrase right.toList) :
    (Condition.mk combinator [.sql (left ++ (" " ++ operator.text ++ " ") ++ right)]).Legible
      profile := by
  apply legible_phrase
  rw [String.toList_append, String.toList_append, List.append_assoc]
  exact phrase_compared phrase operator other

theorem phrase_slots (readable : profile.Readable) (rest : List Value) :
    ∀ value number, Phrase (Piece.writeFrom profile.placeholder number
      (Piece.listed (value :: rest))) := by
  induction rest with
  | nil =>
      intro value number
      have text : Piece.writeFrom profile.placeholder number (Piece.listed [value]) =
          (profile.placeholder number).toList := List.append_nil _
      rw [text]
      exact readable.placeholder number
  | cons next rest ih =>
      intro value number
      have comma : Phrase ", ".toList := Phrase.flat rfl rfl
      have further := comma.then_phrase (ih next (number + 1)) (by
        intro char last
        cases last
        decide)
      exact (readable.placeholder number).before_phrase further (by
        intro char head
        cases head
        decide)

theorem phrase_before_keyword (phrase : Phrase left.toList) (negated : Bool) :
    Phrase (left.toList ++ (" " ++ (if negated then "NOT IN" else "IN") ++ " ").toList) := by
  have keyword : Phrase (" " ++ (if negated then "NOT IN" else "IN") ++ " ").toList := by
    cases negated with
    | _ => exact Phrase.flat rfl rfl
  refine phrase.before_phrase keyword ?_
  intro char head
  cases negated with
  | _ =>
      cases head
      decide

theorem legible_membership (readable : profile.Readable) (phrase : Phrase left.toList)
    (negated : Bool) {values : List Value} (given : values.isEmpty = false) :
    (Condition.mk combinator (.sql (left ++ " " ++ (if negated then "NOT IN" else "IN") ++ " (") ::
      Piece.listed values ++ [.sql ")"])).Legible profile := by
  intro number
  cases values with
  | nil => cases given
  | cons value rest =>
      have whole := (phrase_before_keyword phrase negated).call
        (phrase_slots readable rest value number)
      have opening : (left ++ " " ++ (if negated then "NOT IN" else "IN") ++ " (").toList =
          left.toList ++ (" " ++ (if negated then "NOT IN" else "IN") ++ " ").toList ++ ['('] := by
        simp
      rw [List.cons_append, Piece.writeFrom, Piece.writeFrom_append, opening, List.append_assoc]
      exact whole.undivided

theorem legible_range (readable : profile.Readable) (phrase : Phrase left.toList) (negated : Bool)
    (low high : Value) :
    (Condition.mk combinator (Piece.range
      (left ++ " " ++ (if negated then "NOT BETWEEN" else "BETWEEN") ++ " ") low high)).Legible
        profile := by
  intro number
  have text : (left ++ " " ++ (if negated then "NOT BETWEEN" else "BETWEEN") ++ " ").toList =
      left.toList ++ (" " ++ (if negated then "NOT BETWEEN" else "BETWEEN") ++ " ").toList := by
    simp
  have whole := undivided_range negated phrase (readable.placeholder number)
    (readable.placeholder (number + 1))
  simp only [Piece.range, Piece.writeFrom, text, List.append_nil, List.append_assoc]
  exact whole

theorem legible_chain {first : Condition} {rest : List Condition} (own : first.Legible profile)
    (others : ∀ condition ∈ rest, condition.Legible profile) :
    (Condition.mk combinator (Piece.enclosed (Piece.chain (first :: rest)))).Legible profile := by
  intro number
  rw [Piece.writeFrom_enclosed]
  apply undivided_of_enclosed
  intro valuation position
  obtain ⟨after, leads, _⟩ :=
    Piece.closes_chain own others number valuation { position := position } rfl
  exact ⟨after, leads⟩

theorem legible_raw (readable : profile.Readable) {sql : List Char}
    (whole : wellParenthesised sql = true) (values : List Value) :
    (Condition.mk combinator
      (Piece.enclosed (fillSlots (Part.ofRaw (Text.trimChars sql)) values))).Legible profile := by
  intro number
  have filled := wellParenthesised_filled readable.unmarked whole values number
  rw [Piece.writeFrom_enclosed]
  exact undivided_of_enclosed
    (fun valuation position => leads_of_wellParenthesised filled valuation { position := position })

end Condition

end BoundQuery
