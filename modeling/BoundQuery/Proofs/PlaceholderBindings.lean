import BoundQuery.Proofs.Alignment
import BoundQuery.Proofs.SilentText

/-!
The placeholders of a compiled text are as many as its bindings. Whatever calls put together, the
texts around the slots stay silent and no slot is followed by a digit, so a count that knows nothing
of the slots finds each of them.
-/

set_option autoImplicit false

namespace BoundQuery

/-! ### Conditions -/

namespace Dialect

variable {dialect : Dialect} {left right : List Piece} {text column : String}

theorem countable_nil : dialect.Countable [] where
  texts _ member := by cases member
  spaced _ := rfl

theorem countable_text (silent : dialect.Silent text.toList) : dialect.Countable [.sql text] := by
  refine ⟨fun other member => ?_, fun _ => rfl⟩
  cases List.mem_singleton.mp member
  exact silent

theorem countable_slot (value : Value) : dialect.Countable [.slot value] where
  texts _ member := by cases List.mem_singleton.mp member
  spaced _ := rfl

theorem Countable.append (first : dialect.Countable left) (second : dialect.Countable right)
    (apart : Piece.startsApart right = true) : dialect.Countable (left ++ right) := by
  refine ⟨fun text member => ?_, fun numbered =>
    Piece.spaced_append (first.spaced numbered) (second.spaced numbered) apart⟩
  rcases List.mem_append.mp member with inside | inside
  · exact first.texts text inside
  · exact second.texts text inside

theorem Countable.behind (own : dialect.Countable right) (silent : dialect.Silent text.toList) :
    dialect.Countable (.sql text :: right) := by
  refine ⟨fun other member => ?_, own.spaced⟩
  rcases List.mem_cons.mp member with same | inside
  · cases same
    exact silent
  · exact own.texts other inside

theorem Countable.before (own : dialect.Countable left) (silent : dialect.Silent text.toList)
    (apart : Piece.startsApart [.sql text] = true) : dialect.Countable (left ++ [.sql text]) :=
  own.append (countable_text silent) apart

theorem countable_separated {entries : List (List Piece)}
    (each : ∀ entry ∈ entries, dialect.Countable entry) :
    dialect.Countable ((entries.intersperse [.sql ", "]).flatten) := by
  have comma : dialect.Silent ", ".toList := (by decide : Quiet ", ".toList).silent dialect
  exact Piece.separated_induction countable_nil
    (fun own further => own.append (further.behind comma) rfl) each

theorem countable_listed (values : List Value) : dialect.Countable (Piece.listed values) := by
  rw [Piece.listed_eq_separated]
  refine countable_separated fun entry member => ?_
  obtain ⟨value, _, rfl⟩ := List.mem_map.mp member
  exact countable_slot value

theorem Countable.enclosed (own : dialect.Countable left) :
    dialect.Countable (Piece.enclosed left) := by
  have opening : dialect.Silent "(".toList := (by decide : Quiet "(".toList).silent dialect
  have closing : dialect.Silent ")".toList := (by decide : Quiet ")".toList).silent dialect
  exact (own.behind opening).before closing rfl

theorem countable_chain {conditions : List Condition}
    (each : ∀ condition ∈ conditions, dialect.Countable condition.pieces) :
    dialect.Countable (Piece.chain conditions) := by
  cases conditions with
  | nil => exact countable_nil
  | cons first rest =>
      obtain ⟨own, others⟩ := List.forall_mem_cons.mp each
      have joined : dialect.Countable (rest.flatMap fun condition =>
          .sql (" " ++ condition.combinator.text ++ " ") :: condition.pieces) ∧
            Piece.startsApart (rest.flatMap fun condition =>
              .sql (" " ++ condition.combinator.text ++ " ") :: condition.pieces) = true := by
        clear each own
        induction rest with
        | nil => exact ⟨countable_nil, rfl⟩
        | cons condition more ih =>
            obtain ⟨next, later⟩ := List.forall_mem_cons.mp others
            obtain ⟨further, apart⟩ := ih later
            have joint : Quiet (" " ++ condition.combinator.text ++ " ").toList := by
              cases condition.combinator with
              | _ => decide
            rw [List.flatMap_cons]
            refine ⟨(next.behind (joint.silent dialect)).append further apart, ?_⟩
            cases condition.combinator with
            | _ => rfl
      exact own.append joined.1 joined.2

def Counts (dialect : Dialect) (result : Except QueryError (List Piece)) : Prop :=
  Agree (fun own _ => dialect.Countable own) result result

theorem countable_compared (silent : dialect.Silent text.toList) (operator : Operator)
    (value : Value) :
    dialect.Countable [.sql (text ++ " " ++ operator.text ++ " "), .slot value] := by
  have between : Quiet (" " ++ operator.text ++ " ").toList := by
    cases operator with
    | _ => decide
  have left := silent.followed (between.silent dialect)
  rw [← String.append_assoc, ← String.append_assoc] at left
  exact (countable_slot value).behind left

theorem counts_comparison (quiet : Quiet (Text.trimChars column.toList)) (operator : String)
    (value : Value) :
    dialect.Counts (Piece.comparison dialect.profile column operator value) := by
  refine Agree.of_ok fun pieces made => ?_
  obtain ⟨operation, _, further⟩ := exists_of_bind_ok made
  obtain ⟨rendered, accepted, last⟩ := exists_of_bind_ok further
  have own := dialect.quiet_column quiet accepted
  split at last
  · cases last
    exact countable_text ((own.followed (by decide)).silent dialect)
  · split at last
    · cases last
      exact countable_text ((own.followed (by decide)).silent dialect)
    · cases last
      exact countable_compared (own.silent dialect) operation value

theorem counts_membership (quiet : Quiet (Text.trimChars column.toList)) (negated : Bool)
    (values : List Value) :
    dialect.Counts (Piece.membership dialect.profile negated column values) := by
  refine Agree.of_ok fun pieces made => ?_
  obtain ⟨rendered, accepted, last⟩ := exists_of_bind_ok made
  have own := dialect.quiet_column quiet accepted
  split at last
  · cases last
    have constant : Quiet (if negated then "1 = 1" else "1 = 0").toList := by
      cases negated with
      | _ => decide
    exact countable_text (constant.silent dialect)
  · cases last
    have opening :
        Quiet (rendered ++ " " ++ (if negated then "NOT IN" else "IN") ++ " (").toList := by
      cases negated with
      | _ => exact ((own.followed (by decide)).followed (by decide)).followed (by decide)
    have closing : Quiet ")".toList := by decide
    exact ((countable_listed values).behind (opening.silent dialect)).before
      (closing.silent dialect) rfl

theorem countable_range (silent : dialect.Silent text.toList) (low high : Value) :
    dialect.Countable (Piece.range text low high) := by
  have limits : Quiet " AND ".toList := by decide
  have most : dialect.Countable [.sql " AND ", .slot high] :=
    (countable_slot high).behind (limits.silent dialect)
  exact ((countable_slot low).append most rfl).behind silent

theorem counts_between (quiet : Quiet (Text.trimChars column.toList)) (negated : Bool)
    (low high : Value) :
    dialect.Counts (Piece.between dialect.profile negated column low high) := by
  refine Agree.of_ok fun pieces made => ?_
  obtain ⟨rendered, accepted, last⟩ := exists_of_bind_ok made
  cases last
  have own := dialect.quiet_column quiet accepted
  refine countable_range (Quiet.silent ?_ dialect) low high
  cases negated with
  | _ => exact ((own.followed (by decide)).followed (by decide)).followed (by decide)

theorem counts_nullTest (quiet : Quiet (Text.trimChars column.toList)) (negated : Bool) :
    dialect.Counts (Piece.nullTest dialect.profile negated column) := by
  refine Agree.of_ok fun pieces made => ?_
  obtain ⟨rendered, accepted, last⟩ := exists_of_bind_ok made
  cases last
  refine countable_text (Quiet.silent ((dialect.quiet_column quiet accepted).followed ?_) dialect)
  cases negated with
  | _ => decide

theorem counts_datePart (quiet : Quiet (Text.trimChars column.toList)) (part : DatePart)
    (operator : String) (value : Value) :
    dialect.Counts (Piece.datePart dialect.profile part column operator value) := by
  refine Agree.of_ok fun pieces made => ?_
  obtain ⟨operation, _, further⟩ := exists_of_bind_ok made
  obtain ⟨rendered, accepted, last⟩ := exists_of_bind_ok further
  cases last
  have silent := dialect.silent_extract part (dialect.quiet_column quiet accepted)
  exact countable_compared silent operation value

theorem counts_relativeDate (quiet : Quiet (Text.trimChars column.toList))
    {comparison relative : String} (between : Quiet comparison.toList)
    (computed : dialect.Silent relative.toList) :
    dialect.Counts (Piece.relativeDate dialect.profile column comparison relative) := by
  refine Agree.of_ok fun pieces made => ?_
  obtain ⟨rendered, accepted, last⟩ := exists_of_bind_ok made
  cases last
  have own := dialect.silent_extract .date (dialect.quiet_column quiet accepted)
  exact countable_text ((Silent.followed own (between.silent dialect)).followed computed)

theorem counts_dateRange (quiet : Quiet (Text.trimChars column.toList)) (start stop : DateInput) :
    dialect.Counts (Piece.dateRange dialect.profile column start stop) := by
  refine Agree.of_ok fun pieces made => ?_
  obtain ⟨_, _, further⟩ := exists_of_bind_ok made
  obtain ⟨_, _, further⟩ := exists_of_bind_ok further
  obtain ⟨rendered, accepted, last⟩ := exists_of_bind_ok further
  cases last
  have own := dialect.silent_extract .date (dialect.quiet_column quiet accepted)
  have keyword : Quiet " BETWEEN ".toList := by decide
  exact countable_range (Silent.followed own (keyword.silent dialect)) _ _

theorem counts_having (quiet : Quiet (Text.trimChars column.toList)) (operator : String)
    (value : Value) :
    dialect.Counts (Piece.having dialect.profile column operator value) := by
  refine Agree.of_ok fun pieces made => ?_
  obtain ⟨operation, _, further⟩ := exists_of_bind_ok made
  obtain ⟨rendered, accepted, last⟩ := exists_of_bind_ok further
  cases last
  exact countable_compared ((dialect.quiet_column quiet accepted).silent dialect) operation value

end Dialect

/-- Read with a quote open or not, the tokens close every literal, have their slots outside of
literals and their question marks inside. -/
def orderly : Bool → List (Option Char) → Bool
  | quoted, [] => !quoted
  | quoted, none :: rest => !quoted && orderly quoted rest
  | quoted, some char :: rest =>
      if char == '\'' then orderly (!quoted) rest
      else (char != '?' || quoted) && orderly quoted rest

/-- A raw condition whose literals are left alone by the cutting into slots. -/
def IsOrderly (sql : String) : Prop :=
  orderly false (Part.tokens (Text.trimChars sql.toList)) = true

instance (sql : String) : Decidable (IsOrderly sql) :=
  inferInstanceAs (Decidable (_ = true))

theorem orderly_char {quoted : Bool} {char : Char} {rest : List (Option Char)}
    (own : orderly quoted (some char :: rest) = true) :
    countMarks quoted [char] = 0 ∧ orderly (quotedAfter quoted [char]) rest = true := by
  rw [orderly] at own
  rw [countMarks, quotedAfter, countMarks, countMarks, quotedAfter]
  by_cases quote : (char == '\'') = true
  · rw [if_pos quote] at own
    rw [if_pos quote, if_pos quote]
    exact ⟨rfl, own⟩
  · rw [if_neg quote, Bool.and_eq_true] at own
    have mark : ¬(char == '?' && !quoted) = true := by
      have first := own.1
      cases quoted with
      | true => simp
      | false => simpa using first
    rw [if_neg quote, if_neg quote, if_neg mark]
    exact ⟨rfl, own.2⟩

theorem inert_gather (tokens : List (Option Char)) : ∀ reversed : List Char,
    countMarks false reversed.reverse = 0 →
      orderly (quotedAfter false reversed.reverse) tokens = true →
        ∀ text, Part.sql text ∈ Part.gather reversed tokens → Inert text.toList := by
  have held {reversed : List Char} (none : countMarks false reversed.reverse = 0)
      (outside : quotedAfter false reversed.reverse = false) :
      ∀ text, Part.sql text ∈ Part.pending reversed → Inert text.toList := by
    intro text member
    cases reversed with
    | nil => cases member
    | cons char rest =>
        cases List.mem_singleton.mp member
        rw [String.toList_ofList]
        exact ⟨none, outside⟩
  induction tokens with
  | nil =>
      intro reversed none own
      rw [orderly, Bool.not_eq_true'] at own
      exact held none own
  | cons token rest ih =>
      intro reversed none own
      cases token with
      | some char =>
          obtain ⟨more, further⟩ := orderly_char own
          refine ih (char :: reversed) ?_ ?_
          · rw [List.reverse_cons, countMarks_append, none, more]
          · rw [List.reverse_cons, quotedAfter_append]
            exact further
      | none =>
          rw [orderly, Bool.and_eq_true, Bool.not_eq_true'] at own
          obtain ⟨outside, further⟩ := own
          rw [outside] at further
          intro text member
          rw [Part.gather] at member
          rcases List.mem_append.mp member with before | behind
          · exact held none outside text before
          · rcases List.mem_cons.mp behind with slot | later
            · cases slot
            · exact ih [] rfl further text later

theorem text_of_fillSlots {text : String} (parts : List Part) :
    ∀ values : List Value, Piece.sql text ∈ fillSlots parts values → Part.sql text ∈ parts := by
  induction parts with
  | nil => exact fun _ member => by cases member
  | cons part rest ih =>
      intro values member
      cases part with
      | sql own =>
          rcases List.mem_cons.mp member with same | later
          · cases same
            exact List.mem_cons_self
          · exact List.mem_cons_of_mem _ (ih values later)
      | slot =>
          cases values with
          | nil => exact List.mem_cons_of_mem _ (ih [] member)
          | cons value others =>
              rcases List.mem_cons.mp member with same | later
              · cases same
              · exact List.mem_cons_of_mem _ (ih others later)

theorem inert_rawCondition {kind sql : String} {values : List Value} {pieces : List Piece}
    (own : IsOrderly sql) (made : Piece.rawCondition kind sql values = .ok pieces) :
    ∀ text, .sql text ∈ pieces → Inert text.toList := by
  obtain ⟨_, _, rfl⟩ := Piece.rawCondition_ok made
  intro text member
  exact inert_gather _ [] rfl own text (text_of_fillSlots _ values member)

/-! ### Question marks of a raw text -/

/-- Doubled question marks where no quote is open. -/
def bareEscapes : Bool → List Char → Nat
  | _, [] => 0
  | quoted, '?' :: '?' :: rest => (if quoted then 0 else 1) + bareEscapes quoted rest
  | quoted, char :: rest => bareEscapes (if char == '\'' then !quoted else quoted) rest

/-- Question marks that are not doubled, where a quote is open. -/
def quotedMarks : Bool → List Char → Nat
  | _, [] => 0
  | quoted, '?' :: '?' :: rest => quotedMarks quoted rest
  | quoted, '?' :: rest => (if quoted then 1 else 0) + quotedMarks quoted rest
  | quoted, char :: rest => quotedMarks (if char == '\'' then !quoted else quoted) rest

theorem marks_single {rest : List Char} (single : rest.head? ≠ some '?') (quoted : Bool) :
    bareEscapes quoted ('?' :: rest) = bareEscapes quoted rest ∧
      quotedMarks quoted ('?' :: rest) = (if quoted then 1 else 0) + quotedMarks quoted rest := by
  cases rest with
  | nil => exact ⟨rfl, rfl⟩
  | cons char others =>
      have apart : ∀ more, char :: others = '?' :: more → False := by
        rintro more ⟨⟩
        exact single rfl
      rw [bareEscapes, quotedMarks]
      · exact ⟨rfl, rfl⟩
      · exact apart
      · exact fun more _ => apart more

theorem marks_other {char : Char} (other : char ≠ '?') (quoted : Bool) (rest : List Char) :
    bareEscapes quoted (char :: rest) = bareEscapes (quotedAfter quoted [char]) rest ∧
      quotedMarks quoted (char :: rest) = quotedMarks (quotedAfter quoted [char]) rest := by
  rw [bareEscapes, quotedMarks]
  · exact ⟨rfl, rfl⟩
  · exact fun _ same _ => other same
  · exact fun same => other same
  · exact fun _ same _ => other same

theorem marks_pending (reversed : List Char) (parts : List Part) (values : List Value)
    (quoted : Bool) :
    Piece.bareMarks quoted (fillSlots (Part.pending reversed ++ parts) values) =
        countMarks quoted reversed.reverse +
          Piece.bareMarks (quotedAfter quoted reversed.reverse) (fillSlots parts values) ∧
      Piece.quotedSlots quoted (fillSlots (Part.pending reversed ++ parts) values) =
        Piece.quotedSlots (quotedAfter quoted reversed.reverse) (fillSlots parts values) := by
  cases reversed with
  | nil => exact ⟨(Nat.zero_add _).symm, rfl⟩
  | cons char rest =>
      have read : Part.pending (char :: rest) = [.sql (String.ofList (char :: rest).reverse)] := rfl
      rw [read, List.singleton_append, fillSlots, Piece.bareMarks, Piece.quotedSlots,
        String.toList_ofList]
      exact ⟨rfl, rfl⟩

theorem marks_gather (text : List Char) : ∀ (reversed : List Char) (quoted : Bool)
    (values : List Value),
    (Part.gather reversed (Part.tokens text)).countP Part.isSlot = values.length →
      let pieces := fillSlots (Part.gather reversed (Part.tokens text)) values
      Piece.bareMarks quoted pieces = countMarks quoted reversed.reverse +
          bareEscapes (quotedAfter quoted reversed.reverse) text ∧
        Piece.quotedSlots quoted pieces =
          quotedMarks (quotedAfter quoted reversed.reverse) text := by
  induction text using Part.marks_induction with
  | nil =>
      intro reversed quoted values _
      have own := marks_pending reversed [] values quoted
      rw [List.append_nil] at own
      exact own
  | pair rest ih =>
      intro reversed quoted values filled
      obtain ⟨bare, inside⟩ := ih ('?' :: reversed) quoted values filled
      have mark : countMarks (quotedAfter quoted reversed.reverse) ['?'] =
          if quotedAfter quoted reversed.reverse then 0 else 1 := by
        cases quotedAfter quoted reversed.reverse with
        | _ => rfl
      rw [List.reverse_cons, countMarks_append, quotedAfter_append, mark, Nat.add_assoc] at bare
      rw [List.reverse_cons, quotedAfter_append] at inside
      exact ⟨bare, inside⟩
  | single rest single ih =>
      intro reversed quoted values filled
      obtain ⟨skipped, slot⟩ := marks_single single (quotedAfter quoted reversed.reverse)
      have none : (Part.pending reversed).countP Part.isSlot = 0 := by
        cases reversed with
        | _ => rfl
      rw [Part.tokens_single single, Part.gather, List.countP_append, none, Nat.zero_add,
        List.countP_cons_of_pos rfl] at filled
      obtain ⟨value, others, rfl⟩ := List.exists_cons_of_length_eq_add_one filled.symm
      obtain ⟨bare, inside⟩ := ih [] (quotedAfter quoted reversed.reverse) others
        (Nat.succ.inj filled)
      obtain ⟨front, behind⟩ := marks_pending reversed
        (.slot :: Part.gather [] (Part.tokens rest)) (value :: others) quoted
      rw [Part.tokens_single single, Part.gather, skipped, slot]
      refine ⟨front.trans (congrArg _ ?_), behind.trans ?_⟩
      · exact bare.trans (Nat.zero_add _)
      · exact congrArg ((if quotedAfter quoted reversed.reverse then 1 else 0) + ·) inside
  | other char rest other ih =>
      intro reversed quoted values filled
      obtain ⟨skipped, passed⟩ := marks_other other (quotedAfter quoted reversed.reverse) rest
      have mark : ∀ quoted, countMarks quoted [char] = 0 := by
        intro quoted
        simp [countMarks, other]
      rw [Part.tokens_other other] at filled ⊢
      obtain ⟨bare, inside⟩ := ih (char :: reversed) quoted values filled
      rw [List.reverse_cons, countMarks_append, quotedAfter_append, mark, Nat.add_zero] at bare
      rw [List.reverse_cons, quotedAfter_append] at inside
      rw [skipped, passed]
      exact ⟨bare, inside⟩

/-- What a raw condition leaves bare is what its caller doubled outside of literals, and its slots
in literals are the question marks that the caller left single there. -/
theorem marks_rawCondition {kind sql : String} {values : List Value} {pieces : List Piece}
    (made : Piece.rawCondition kind sql values = .ok pieces) :
    Piece.bareMarks false pieces = bareEscapes false (Text.trimChars sql.toList) ∧
      Piece.quotedSlots false pieces = quotedMarks false (Text.trimChars sql.toList) := by
  obtain ⟨_, filled, rfl⟩ := Piece.rawCondition_ok made
  obtain ⟨bare, inside⟩ := marks_gather (Text.trimChars sql.toList) [] false values filled
  exact ⟨bare.trans (Nat.zero_add _), inside⟩

theorem orderly_iff (text : List Char) : ∀ quoted : Bool,
    orderly quoted (Part.tokens text) = true ↔
      bareEscapes quoted text = 0 ∧ quotedMarks quoted text = 0 ∧
        quotedAfter quoted text = false := by
  induction text using Part.marks_induction with
  | nil =>
      intro quoted
      cases quoted with
      | _ => simp [Part.tokens, orderly, bareEscapes, quotedMarks, quotedAfter]
  | pair rest ih =>
      intro quoted
      have further := ih quoted
      cases quoted with
      | true =>
          simpa [Part.tokens_pair, orderly, bareEscapes, quotedMarks, quotedAfter] using further
      | false => simp [Part.tokens_pair, orderly, bareEscapes]
  | single rest single ih =>
      intro quoted
      have further := ih quoted
      obtain ⟨skipped, slot⟩ := marks_single single quoted
      rw [Part.tokens_single single, skipped, slot]
      cases quoted with
      | true => simp [orderly]
      | false => simpa [orderly, quotedAfter] using further
  | other char rest other ih =>
      intro quoted
      have further := ih (quotedAfter quoted [char])
      obtain ⟨skipped, passed⟩ := marks_other other quoted rest
      have after : quotedAfter quoted (char :: rest) =
          quotedAfter (quotedAfter quoted [char]) rest := quotedAfter_append [char] rest quoted
      rw [Part.tokens_other other, skipped, passed, after, ← further, orderly, quotedAfter,
        quotedAfter]
      by_cases quote : (char == '\'') = true
      · rw [if_pos quote, if_pos quote]
      · rw [if_neg quote, if_neg quote, bne_iff_ne.mpr other, Bool.true_or, Bool.true_and]

/-- A raw condition is orderly if no question mark is doubled outside of its literals, none stands
single inside of them, and each of them is closed. -/
theorem isOrderly_iff {sql : String} :
    IsOrderly sql ↔ bareEscapes false (Text.trimChars sql.toList) = 0 ∧
      quotedMarks false (Text.trimChars sql.toList) = 0 ∧
        quotedAfter false (Text.trimChars sql.toList) = false :=
  orderly_iff _ false

/-! ### Programs of calls -/

namespace Dialect

variable {dialect : Dialect}

/-- A raw condition may be counted where placeholders are question marks and it is orderly. -/
def Allows (dialect : Dialect) (place : RawPlace) (sql : String) : Prop :=
  place = .condition ∧ dialect.isNumbered = false ∧ IsOrderly sql

theorem corresponds (dialect : Dialect) :
    dialect.profile.Corresponds dialect.profile
      (fun name => Quiet (Text.trimChars name.toList)) dialect.Allows
      (fun own _ => Quiet own.toList) (fun own _ => dialect.Countable own) where
  table quiet := Agree.of_ok fun _ accepted => dialect.quiet_table quiet accepted
  column quiet := Agree.of_ok fun _ accepted => dialect.quiet_column quiet accepted
  aliasName _ := Agree.of_ok fun _ accepted => dialect.quiet_aliasName accepted
  compared operator first second := (first.compared operator).followed second
  named first second := (Quiet.followed first (by decide)).followed second
  joined allowed _ := by cases allowed.1
  ordered allowed _ := by cases allowed.1
  comparison operator value quiet := counts_comparison quiet operator value
  membership negated values quiet := counts_membership quiet negated values
  between negated low high quiet := counts_between quiet negated low high
  nullTest negated quiet := counts_nullTest quiet negated
  datePart part operator value quiet := counts_datePart quiet part operator value
  today quiet := counts_relativeDate quiet (by decide) dialect.silent_currentDate
  daysAgo days comparison quiet := by
    refine counts_relativeDate quiet ?_ (dialect.silent_dateMinusDays days)
    rcases comparison with rfl | rfl
    · decide
    · decide
  dateRange start stop quiet := counts_dateRange quiet start stop
  having operator value quiet := counts_having quiet operator value
  rawCondition kind values allowed made := by
    obtain ⟨_, unnumbered, own⟩ := allowed
    have texts := inert_rawCondition own made
    cases dialect with
    | mysql => exact ⟨texts, fun numbered => by cases numbered⟩
    | sqlite => exact ⟨texts, fun numbered => by cases numbered⟩
    | _ => cases unnumbered
  enclosed own := Countable.enclosed own
  chain each := countable_chain (forall_of_related each fun own => own.pieces)

end Dialect

namespace Clauses

variable {frame other : Clauses}

theorem quiet_sourceText (quiet : frame.Related (fun own _ => Quiet own.toList) other) :
    Quiet frame.sourceText.toList := by
  have source : Quiet (frame.source.elim "" Source.text).toList := by
    cases found : frame.source with
    | none => exact Quiet.nothing
    | some own =>
        obtain ⟨_, _, same⟩ := exists_of_related quiet.source found
        refine Quiet.followed (Quiet.followed (by decide) same.rendered) ?_
        cases aliased : own.aliasName with
        | none => exact Quiet.nothing
        | some aliasName =>
            obtain ⟨_, _, named⟩ := exists_of_related same.aliasName aliased
            exact Quiet.followed (by decide) named
  have joined (join : Join) (table : Quiet join.table.toList)
      (condition : ∀ text, join.condition = some text → Quiet text.toList) :
      Quiet join.text.toList := by
    have kind : Quiet (" " ++ join.kind.text ++ " ").toList := by
      cases join.kind with
      | _ => decide
    refine (kind.followed table).followed ?_
    cases given : join.condition with
    | none => exact Quiet.nothing
    | some text => exact Quiet.followed (by decide) (condition text given)
  have each : ∀ join ∈ frame.joins, Quiet join.text.toList := by
    refine forall_of_related quiet.joins fun {own another} same => joined own same.table ?_
    intro text given
    obtain ⟨_, _, condition⟩ := exists_of_related same.condition given
    exact condition
  rw [frame.sourceText_eq]
  refine source.followed ?_
  generalize frame.joins = joins at each
  induction joins with
  | nil => exact Quiet.nothing
  | cons join rest ih =>
      obtain ⟨own, others⟩ := List.forall_mem_cons.mp each
      rw [List.map_cons, String.join_cons]
      exact own.followed (ih others)

theorem quiet_projectionText (quiet : frame.Related (fun own _ => Quiet own.toList) other) :
    Quiet frame.projectionText.toList := by
  have distinct : Quiet ("SELECT " ++ if frame.distinct then "DISTINCT " else "").toList := by
    cases frame.distinct with
    | _ => decide
  refine distinct.followed ?_
  split
  · decide
  · exact Quiet.commaSeparated (forall_of_related quiet.columns fun own => own)

theorem quiet_groupText (quiet : frame.Related (fun own _ => Quiet own.toList) other) :
    Quiet frame.groupText.toList := by
  unfold groupText
  split
  · exact Quiet.nothing
  · exact Quiet.followed (by decide)
      (Quiet.commaSeparated (forall_of_related quiet.groups fun own => own))

theorem quiet_orderText (quiet : frame.Related (fun own _ => Quiet own.toList) other) :
    Quiet frame.orderText.toList := by
  unfold orderText
  split
  · exact Quiet.nothing
  · refine Quiet.followed (by decide) (Quiet.commaSeparated fun text member => ?_)
    obtain ⟨order, listed, rfl⟩ := List.mem_map.mp member
    have own : Quiet order.column.toList :=
      forall_of_related quiet.orders (fun same => same.column) order listed
    unfold Order.text
    split
    · exact own
    · refine (own.followed (by decide)).followed ?_
      cases order.direction with
      | _ => decide

theorem quiet_pagingText (dialect : Dialect) (frame : Clauses) :
    Quiet (frame.pagingText dialect.profile).toList := by
  unfold pagingText
  dsimp only
  split
  · exact Quiet.nothing
  · exact Quiet.followed (by decide) (dialect.quiet_paging _ _ _)

theorem groupText_apart (frame : Clauses) : Piece.startsApart [.sql frame.groupText] = true := by
  unfold groupText
  split
  · rfl
  · simp [Piece.startsApart]

theorem ending_apart (profile : Profile) (frame : Clauses) :
    Piece.startsApart [.sql (frame.orderText ++ frame.pagingText profile)] = true := by
  unfold orderText
  split
  · unfold pagingText
    dsimp only
    split
    · rfl
    · simp [Piece.startsApart]
  · simp [Piece.startsApart]

end Clauses

namespace Draft

variable {dialect : Dialect} {draft : Draft}

theorem countable_conditions {keyword : String} (quiet : Quiet (" " ++ keyword ++ " ").toList)
    {conditions : List Condition}
    (each : ∀ condition ∈ conditions, dialect.Countable condition.pieces) :
    dialect.Countable (conditionPieces keyword conditions) ∧
      Piece.startsApart (conditionPieces keyword conditions) = true := by
  unfold conditionPieces
  split
  · exact ⟨Dialect.countable_nil, rfl⟩
  · refine ⟨(Dialect.countable_chain each).behind (quiet.silent dialect), ?_⟩
    simp [Piece.startsApart]

theorem countable_insertion {insertion : Insertion} (table : Quiet insertion.table.toList)
    (columns : ∀ column ∈ insertion.columns, Quiet column.toList) :
    dialect.Countable (insertionPieces insertion) := by
  have opening : Quiet ("INSERT INTO " ++ insertion.table ++ " (" ++
      commaSeparated insertion.columns ++ ") VALUES ").toList :=
    (((Quiet.followed (by decide) table).followed (by decide)).followed
      (Quiet.commaSeparated columns)).followed (by decide)
  refine Dialect.Countable.behind ?_ (opening.silent dialect)
  refine Dialect.countable_separated fun entry member => ?_
  obtain ⟨row, _, rfl⟩ := List.mem_map.mp member
  exact (Dialect.countable_listed row).enclosed

theorem countable_assignment {assignment : Assignment} (table : Quiet assignment.table.toList)
    (columns : ∀ cell ∈ assignment.cells, Quiet cell.1.toList) :
    dialect.Countable (assignmentPieces assignment) := by
  have opening : Quiet ("UPDATE " ++ assignment.table ++ " SET ").toList :=
    (Quiet.followed (by decide) table).followed (by decide)
  refine Dialect.Countable.behind ?_ (opening.silent dialect)
  refine Dialect.countable_separated fun entry member => ?_
  obtain ⟨cell, listed, rfl⟩ := List.mem_map.mp member
  have left : Quiet (cell.1 ++ " = ").toList := (columns cell listed).followed (by decide)
  exact (Dialect.countable_slot cell.2).behind (left.silent dialect)

/-- The statement of such a draft can be counted, whichever kind of statement it is. -/
theorem countable_pieces (own : draft.Related (fun own _ => Quiet own.toList)
    (fun own _ => dialect.Countable own) draft) :
    dialect.Countable (draft.pieces dialect.profile) := by
  obtain ⟨wheres, apart⟩ := countable_conditions (by decide : Quiet (" " ++ "WHERE" ++ " ").toList)
    (forall_of_related own.wheres fun same => same.pieces)
  obtain ⟨havings, behind⟩ := countable_conditions
    (by decide : Quiet (" " ++ "HAVING" ++ " ").toList)
    (forall_of_related own.havings fun same => same.pieces)
  unfold Draft.pieces
  cases inserting : draft.insertion with
  | some insertion =>
      obtain ⟨_, _, same⟩ := exists_of_related own.insertion inserting
      exact countable_insertion same.table (forall_of_related same.columns fun quiet => quiet)
  | none =>
      cases updating : draft.assignment with
      | some assignment =>
          obtain ⟨_, _, same⟩ := exists_of_related own.assignment updating
          have cells := forall_of_related same.cells fun quiet => quiet.1
          exact (countable_assignment same.table cells).append wheres apart
      | none =>
          cases deleting : draft.frame.delete with
          | some delete =>
              obtain ⟨_, _, table⟩ := exists_of_related own.frame.delete deleting
              have opening : Quiet ("DELETE FROM " ++ delete.table).toList :=
                Quiet.followed (by decide) table
              exact wheres.behind (opening.silent dialect)
          | none =>
              have heading : Quiet draft.headText.toList :=
                (Clauses.quiet_projectionText own.frame).followed
                  (Clauses.quiet_sourceText own.frame)
              have ending : Quiet (draft.frame.orderText ++
                  draft.frame.pagingText dialect.profile).toList :=
                (Clauses.quiet_orderText own.frame).followed
                  (Clauses.quiet_pagingText dialect draft.frame)
              have tail : dialect.Countable (draft.tailPieces dialect.profile) :=
                (havings.behind ((Clauses.quiet_groupText own.frame).silent dialect)).before
                  (ending.silent dialect) (draft.frame.ending_apart dialect.profile)
              have starts : Piece.startsApart (draft.tailPieces dialect.profile) = true :=
                Piece.startsApart_append
                  (Piece.startsApart_append (draft.frame.groupText_apart) behind)
                  (draft.frame.ending_apart dialect.profile)
              exact (wheres.behind (heading.silent dialect)).append tail starts

end Draft

section Builders

variable {dialect : Dialect} {cacheable : Bool} {calls : List Call} {builder : Builder}

theorem statement_of_structured (conditions : ∀ call ∈ calls, ∀ raw ∈ call.raws, raw.1 = .condition)
    (reached : ({ profile := dialect.profile, cacheable := cacheable } : Builder).applyAll calls =
      .ok builder) :
    builder.statement =
      .ok (Piece.statement dialect.profile (builder.clauses.draft.pieces dialect.profile)) := by
  have typed : ∀ call ∈ calls, call.isRaw = false := by
    intro call member
    cases call with
    | raw sql values =>
        have place := conditions _ member (.statement, sql)
        unfold Call.raws at place
        cases place List.mem_cons_self
    | _ => rfl
  obtain ⟨kind, aligned, meant⟩ := Builder.reached_draft reached
  have compiled := Builder.statementOf_eq aligned (Clauses.raw_of_draft typed meant) .whole
  rw [kind] at compiled
  exact compiled

theorem countable_of_calls
    (quiet : ∀ call ∈ calls, ∀ name ∈ call.names, Quiet (Text.trimChars name.toList))
    (allowed : ∀ call ∈ calls, ∀ raw ∈ call.raws, dialect.Allows raw.1 raw.2)
    (reached : ({ profile := dialect.profile, cacheable := cacheable } : Builder).applyAll calls =
      .ok builder) :
    dialect.Countable (builder.clauses.draft.pieces dialect.profile) := by
  obtain ⟨_, _, meant⟩ := Builder.reached_draft reached
  have named : ∀ name ∈ Call.allNames calls, Quiet (Text.trimChars name.toList) := by
    intro name member
    obtain ⟨call, listed, inside⟩ := Call.mem_allNames.mp member
    exact quiet call listed name inside
  have raw : ∀ raw ∈ Call.allRaws calls, dialect.Allows raw.1 raw.2 := by
    intro raw member
    obtain ⟨call, listed, inside⟩ := Call.mem_allRaws.mp member
    exact allowed call listed raw inside
  have agree := Draft.applyAll_related dialect.corresponds calls Draft.related_nothing named raw
  rw [meant] at agree
  exact Draft.countable_pieces agree.ok_ok

end Builders

/-- Calls that take no SQL of their own, with names in which no character belongs to a placeholder
or a literal, compile to as many placeholders as there are values. Numbers are read as words, so
the values must be few enough to be counted by one. -/
theorem placeholders_match_bindings (dialect : Dialect) (cacheable : Bool) (calls : List Call)
    (builder : Builder) (structured : ∀ call ∈ calls, call.raws = [])
    (quiet : ∀ call ∈ calls, ∀ name ∈ call.names, ∀ char ∈ name.toList,
      char ∉ ['?', '$', '@', '\''])
    (reached : ({ profile := dialect.profile, cacheable := cacheable } : Builder).applyAll calls =
      .ok builder) :
    ∃ statement, builder.statement = .ok statement ∧
      ((dialect.isNumbered = true → statement.bindings.length ≤ greatestWord) →
        countPlaceholders dialect.profile statement.sql = statement.bindings.length) := by
  have none : ∀ call ∈ calls, ∀ raw : RawPlace × String, raw ∉ call.raws := by
    intro call listed raw member
    rw [structured call listed] at member
    cases member
  have countable := countable_of_calls
    (fun call listed name inside => Quiet.within (quiet call listed name inside)
      (trimChars_within _))
    (fun call listed raw inside => absurd inside (none call listed raw)) reached
  have compiled := statement_of_structured
    (fun call listed raw inside => absurd inside (none call listed raw)) reached
  exact ⟨_, compiled, countable.count⟩

def datedReport : List Call :=
  [.readFromAs "sales.orders" "o", .selectAliased [("n", "COUNT(*)"), ("day", "o.placed")],
    .join .left "teams" "o.team" "=" "teams.id", .whereYear "placed" "=" 2024,
    .whereLastDays "placed" 30, .membership .and false "state" [.int 1, .int 2, .int 3],
    .group .or [.between .and true "total" (.int 5) (.int 9), .compare .or "note" "!=" .null],
    .groupBy ["team"], .having "COUNT(*)" ">" (.int 5), .orderBy "team" .ascending, .limit 10]

theorem dated_report_matches_bindings :
    ∃ builder : Builder,
      ({ profile := Dialect.mssql.profile } : Builder).applyAll datedReport = .ok builder ∧
      ∃ statement, builder.statement = .ok statement ∧ statement.bindings.length = 7 ∧
        countPlaceholders Dialect.mssql.profile statement.sql = statement.bindings.length := by
  have accepted : (({ profile := Dialect.mssql.profile } : Builder).applyAll datedReport).isOk := by
    decide +kernel
  have seven : (((({ profile := Dialect.mssql.profile } : Builder).applyAll datedReport).bind
      Builder.statement).toOption.all fun statement => statement.bindings.length == 7) = true := by
    decide +kernel
  have quiet : ∀ call ∈ datedReport, ∀ name ∈ call.names, Quiet name.toList := by
    decide +kernel
  obtain ⟨builder, reached⟩ := ok_of_isOk accepted
  obtain ⟨statement, compiled, counted⟩ := placeholders_match_bindings .mssql false datedReport
    builder (by decide +kernel) quiet reached
  rw [reached] at seven
  change (builder.statement.toOption.all fun statement => statement.bindings.length == 7) = true
    at seven
  rw [compiled] at seven
  have length : statement.bindings.length = 7 := beq_iff_eq.mp seven
  exact ⟨builder, reached, statement, compiled, length, counted fun _ => by rw [length]; decide⟩

/-- Where placeholders are question marks, the count is that of the values, plus the question marks
that raw conditions leave outside of literals, less the slots that they put inside. Where every raw
condition is orderly there are none of either. -/
theorem raw_conditions_keep_count (dialect : Dialect)
    (marked : dialect = .mysql ∨ dialect = .sqlite)
    (cacheable : Bool) (calls : List Call) (builder : Builder)
    (plain : ∀ call ∈ calls, ∀ name ∈ call.names, IsPlainName name)
    (conditions : ∀ call ∈ calls, ∀ raw ∈ call.raws, raw.1 = .condition)
    (reached : ({ profile := dialect.profile, cacheable := cacheable } : Builder).applyAll calls =
      .ok builder) :
    ∃ pieces statement, pieces = builder.clauses.draft.pieces dialect.profile ∧
      builder.statement = .ok statement ∧ statement = Piece.statement dialect.profile pieces ∧
      countPlaceholders dialect.profile statement.sql + Piece.quotedSlots false pieces =
        statement.bindings.length + Piece.bareMarks false pieces ∧
      ((∀ call ∈ calls, ∀ raw ∈ call.raws, IsOrderly raw.2) →
        countPlaceholders dialect.profile statement.sql = statement.bindings.length) := by
  have unnumbered : dialect.isNumbered = false := by
    rcases marked with rfl | rfl
    · rfl
    · rfl
  have compiled := statement_of_structured conditions reached
  refine ⟨_, _, rfl, compiled, rfl, Dialect.count_of_unnumbered unnumbered _, fun orderly => ?_⟩
  have countable : dialect.Countable (builder.clauses.draft.pieces dialect.profile) :=
    countable_of_calls (fun call listed name inside => (plain call listed name inside).quiet)
      (fun call listed raw inside =>
        ⟨conditions call listed raw inside, unnumbered, orderly call listed raw inside⟩) reached
  refine countable.count fun numbered => ?_
  rw [unnumbered] at numbered
  cases numbered

def placeholderTally (dialect : Dialect) (calls : List Call) : Option (Nat × Nat) :=
  ((({ profile := dialect.profile } : Builder).applyAll calls).bind Builder.statement).toOption.map
    fun statement => (countPlaceholders dialect.profile statement.sql, statement.bindings.length)

/-- An escaped question mark outside of literals is counted, and a slot inside a literal is not. -/
theorem marks_outside_and_slots_inside_literals :
    placeholderTally .sqlite [.readFrom "t", .whereRaw .and "a ?? 'k' = ?" [.int 1]] =
        some (2, 1) ∧
      placeholderTally .mysql [.readFrom "t", .whereRaw .and "name = '?'" [.int 1]] =
        some (0, 1) := by
  decide +kernel

def quotedReminder : List Call :=
  [.readFrom "reminders", .whereRaw .and "note LIKE 'why??%' AND due < ?" [.int 20240101],
    .group .or [.whereRaw .and "state IN (?, ?)" [.int 1, .int 2], .nullTest .or true "seen"],
    .groupBy ["team"], .havingRaw "COUNT(*) > ? OR 'it''s ??' = team" [.int 5]]

theorem quoted_reminder_keeps_count :
    ∃ builder : Builder,
      ({ profile := Dialect.sqlite.profile } : Builder).applyAll quotedReminder = .ok builder ∧
      ∃ statement, builder.statement = .ok statement ∧
        countPlaceholders Dialect.sqlite.profile statement.sql = statement.bindings.length := by
  have accepted :
      (({ profile := Dialect.sqlite.profile } : Builder).applyAll quotedReminder).isOk := by
    decide +kernel
  obtain ⟨builder, reached⟩ := ok_of_isOk accepted
  obtain ⟨_, statement, _, compiled, _, _, counted⟩ := raw_conditions_keep_count .sqlite (.inr rfl)
    false quotedReminder builder (by decide +kernel) (by decide +kernel) reached
  exact ⟨builder, reached, statement, compiled, counted (by decide +kernel)⟩

end BoundQuery
