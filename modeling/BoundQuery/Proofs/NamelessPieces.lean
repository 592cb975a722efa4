import BoundQuery.Proofs.Conditions
import BoundQuery.Proofs.NamelessText
import BoundQuery.Proofs.TidyFrame

/-!
What the dialects write for plain names, and which names are found in it. Between its quotes a name
is none that is found, and no spelling of a dialect puts one behind a keyword but this: PostgreSQL
takes the year, the month and the day `FROM` a column.
-/

set_option autoImplicit false

namespace BoundQuery

theorem nameless_commaSeparated {texts : List String}
    (each : ∀ text ∈ texts, Nameless text.toList) : Nameless (commaSeparated texts).toList :=
  commaSeparated_of_joined Nameless.nothing (fun own other => own.join (by decide) other) each

theorem nameless_around {before inner behind : String} (left : Nameless before.toList)
    (own : Parting inner.toList) (right : Parting behind.toList) :
    Nameless (before ++ inner ++ behind).toList :=
  (left.closed own).closed right

theorem parting_operator (operator : Operator) : Parting (" " ++ operator.text ++ " ").toList := by
  cases operator with
  | _ => decide

/-! ### What a dialect writes -/

theorem visible_of_plain {name : String} (plain : IsPlainName name) :
    ∀ char ∈ Text.trimChars name.toList, Text.isAsciiBlank char = false := by
  intro char member
  rcases point_or_isNamePart plain char member with rfl | part
  · decide
  · exact visible_of_isNamePart part

namespace Dialect

variable {dialect : Dialect}

theorem marks_apart (dialect : Dialect) :
    (Text.isAsciiBlank dialect.marks.1 = false ∧ isKeyLetter dialect.marks.1 = false) ∧
      (Text.isAsciiBlank dialect.marks.2 = false ∧ isKeyLetter dialect.marks.2 = false) := by
  cases dialect with
  | _ => decide

theorem parting_quotePart {part : String}
    (visible : ∀ char ∈ part.toList, Text.isAsciiBlank char = false) :
    Parting (dialect.quotePart part).toList := by
  obtain ⟨⟨hidden, opening⟩, ⟨unseen, closing⟩⟩ := dialect.marks_apart
  have text : (dialect.quotePart part).toList =
      dialect.marks.1 :: (doubled dialect.marks.2 part.toList ++ [dialect.marks.2]) := by
    rw [dialect.quotePart_eq]
    exact String.toList_ofList
  refine parting_of_visible ?_ ?_ ?_ ?_
  · intro char member
    rcases dialect.mem_quotePart member with rfl | inside | rfl
    · exact hidden
    · exact visible char inside
    · exact unseen
  · rw [text]
    exact List.cons_ne_nil _ _
  · rw [text, List.head?_cons, Option.all_some, opening]
    rfl
  · rw [text, ← List.cons_append, List.getLast?_concat, Option.all_some, closing]
    rfl

theorem parting_writtenName {part : List Char} {others : List (List Char)}
    (plain : ∀ other ∈ part :: others, Identifier.isPlainPart other = true) :
    Parting (writtenName (some dialect.marks) (part :: others)) := by
  have quoted : ∀ other ∈ part :: others, Parting (around (some dialect.marks) other) := by
    intro other member
    rw [← quotePart_plain (plain other member)]
    refine parting_quotePart fun char inside => ?_
    rw [String.toList_ofList] at inside
    exact visible_of_isNamePart (isNamePart_of_isPlainPart (plain other member) char inside)
  obtain ⟨first, rest⟩ := List.forall_mem_cons.mp quoted
  rw [writtenName_cons]
  clear plain quoted
  induction others using List.reverseRecOn with
  | nil =>
      rw [List.flatMap_nil, List.append_nil]
      exact first
  | append_singleton front last ih =>
      obtain ⟨earlier, final⟩ := List.forall_mem_append.mp rest
      have point : Parting ['.'] := by decide
      rw [List.flatMap_append, List.flatMap_singleton, ← List.append_assoc]
      exact (ih earlier).append (point.append (final last List.mem_cons_self))

theorem parting_table {name rendered : String} (plain : IsPlainName name)
    (accepted : dialect.profile.table name = .ok rendered) : Parting rendered.toList := by
  obtain ⟨part, others, split, plainParts⟩ := plain.parts
  rw [table_plain plain accepted, split]
  exact parting_writtenName plainParts

theorem parting_column {name rendered : String} (plain : IsPlainName name)
    (accepted : dialect.profile.column name = .ok rendered) : Parting rendered.toList := by
  obtain ⟨part, others, split, plainParts⟩ := plain.parts
  rw [column_plain plain accepted, split]
  exact parting_writtenName plainParts

theorem parting_aliasName {name rendered : String} (plain : IsPlainName name)
    (accepted : dialect.profile.aliasName name = .ok rendered) : Parting rendered.toList := by
  obtain ⟨_, rfl⟩ := aliasName_ok accepted
  refine parting_quotePart ?_
  rw [String.toList_ofList]
  exact visible_of_plain plain

theorem parting_placeholder (dialect : Dialect) (number : Nat) :
    Parting (dialect.placeholder number).toList := by
  cases dialect with
  | postgresql => exact Parting.closed (by decide) (parting_number number)
  | mysql => exact (by decide : Parting "?".toList)
  | sqlite => exact (by decide : Parting "?".toList)
  | mssql =>
      change Parting ("@P" ++ toString number).toList
      rw [String.toList_append]
      exact Parting.of_nameless (by decide) (by decide) (by decide) (parting_number number)

/-- The columns which the dialect writes behind a `FROM`. -/
def behindFrom (dialect : Dialect) (columns : List String) : List String :=
  if dialect = .postgresql then columns else []

theorem behindFrom_nil (dialect : Dialect) : dialect.behindFrom [] = [] :=
  ite_self []

theorem behindFrom_append (dialect : Dialect) (first second : List String) :
    dialect.behindFrom (first ++ second) =
      dialect.behindFrom first ++ dialect.behindFrom second := by
  unfold behindFrom
  split
  · rfl
  · rfl

theorem nameless_extract {part : DatePart} {column : String}
    (other : part = .date ∨ dialect ≠ .postgresql) (own : Parting column.toList) :
    Nameless (part.extract dialect.profile column).toList := by
  cases part with
  | _ =>
      cases dialect with
      | _ =>
          first
          | exact absurd other (by decide)
          | exact nameless_around (by decide) own (by decide)

theorem nameless_dateOf (dialect : Dialect) {column : String} (own : Parting column.toList) :
    Nameless (dialect.profile.dateOf column).toList := by
  have date : Nameless (DatePart.date.extract dialect.profile column).toList :=
    nameless_extract (.inl rfl) own
  exact date

theorem finds_extracted {part : DatePart} {column rendered : String} (plain : IsPlainName column)
    (accepted : Dialect.postgresql.profile.column column = .ok rendered) (own : part ≠ .date) :
    Finds (part.extract Dialect.postgresql.profile rendered).toList [lastSegment column] := by
  obtain ⟨first, others, split, plainParts⟩ := plain.parts
  have found : Finds (' ' :: ("FROM".toList ++ ' ' :: rendered.toList)) [lastSegment column] := by
    rw [column_plain plain accepted, split, lastSegment_of_parts split]
    exact (finds_written Dialect.postgresql.marks_proper List.mem_cons_self first others
      plainParts).space
  have around {lead : String} {before : List Char} (left : Nameless before)
      (behind : lead.toList = before ++ " FROM ".toList) :
      Finds (lead ++ rendered ++ ")").toList [lastSegment column] := by
    have closing : Nameless ")".toList := by decide
    have clear : Clear ")".toList := by
      intro char head
      cases head
      exact .inr rfl
    have whole := (left.finds.append found (Clear.space _)).append closing.finds clear
    rw [List.nil_append, List.append_nil] at whole
    have text : (lead ++ rendered ++ ")").toList =
        before ++ (' ' :: ("FROM".toList ++ ' ' :: rendered.toList)) ++ ")".toList := by
      rw [String.toList_append, String.toList_append, behind]
      simp
    rw [text]
    exact whole
  cases part with
  | date => exact absurd rfl own
  | year => exact around (by decide : Nameless "EXTRACT(YEAR".toList) rfl
  | month => exact around (by decide : Nameless "EXTRACT(MONTH".toList) rfl
  | day => exact around (by decide : Nameless "EXTRACT(DAY".toList) rfl

theorem finds_extract {part : DatePart} {column rendered : String} (plain : IsPlainName column)
    (accepted : dialect.profile.column column = .ok rendered) (own : part ≠ .date) :
    Finds (part.extract dialect.profile rendered).toList
      ((dialect.behindFrom [column]).map lastSegment) := by
  unfold behindFrom
  split
  · rename_i same
    subst same
    exact finds_extracted plain accepted own
  · rename_i other
    exact (nameless_extract (.inr other) (parting_column plain accepted)).finds

theorem nameless_currentDate (dialect : Dialect) : Nameless dialect.currentDate.toList := by
  cases dialect with
  | _ => decide

theorem nameless_dateMinusDays (dialect : Dialect) (days : Nat) :
    Nameless (dialect.dateMinusDays days).toList := by
  cases dialect with
  | _ => exact nameless_around (by decide) (parting_number days) (by decide)

theorem nameless_standardPaging (limit offset : Option Nat) :
    Nameless (standardPaging limit offset).toList := by
  have limiting (number : Nat) : Nameless ("LIMIT " ++ toString number).toList :=
    Nameless.closed (by decide) (parting_number number)
  cases limit with
  | none =>
      cases offset with
      | none => exact Nameless.nothing
      | some skipped => exact Nameless.closed (by decide) (parting_number skipped)
  | some most =>
      cases offset with
      | none => exact limiting most
      | some skipped => exact ((limiting most).closed (by decide)).closed (parting_number skipped)

theorem nameless_fetchPaging (limit offset : Option Nat) (ordered : Bool) :
    Nameless (fetchPaging limit offset ordered).toList := by
  have order :
      Nameless ((if ordered then "" else "ORDER BY (SELECT NULL) ") ++ "OFFSET ").toList := by
    cases ordered with
    | _ => decide
  have fetching (number : Nat) :
      Parting (" FETCH NEXT " ++ toString number ++ " ROWS ONLY").toList :=
    (Parting.closed (by decide) (parting_number number)).closed (by decide)
  unfold fetchPaging
  split
  · exact Nameless.nothing
  · have skipped := nameless_around order (parting_number (offset.getD 0))
      (by decide : Parting " ROWS".toList)
    cases limit with
    | none =>
        rw [String.append_empty]
        exact skipped
    | some most => exact skipped.closed (fetching most)

theorem nameless_paging (dialect : Dialect) (limit offset : Option Nat) (ordered : Bool) :
    Nameless (dialect.profile.limitOffset limit offset ordered).toList := by
  cases dialect with
  | mssql => exact nameless_fetchPaging limit offset ordered
  | _ => exact nameless_standardPaging limit offset

/-! ### Conditions -/

/-- What is found in the text of the pieces are those of the columns which the dialect writes behind
a `FROM`, however the slots are numbered. -/
def Shows (dialect : Dialect) (columns : List String) (pieces : List Piece) : Prop :=
  Piece.Written dialect.profile
    (fun chars => Finds chars ((dialect.behindFrom columns).map lastSegment)) pieces

section Conditions

variable {pieces : List Piece} {columns more : List String} {column rendered left : String}

theorem shows_nothing (own : Piece.Written dialect.profile Nameless pieces) :
    dialect.Shows [] pieces := by
  intro number
  rw [dialect.behindFrom_nil]
  exact (own number).finds

theorem shows_text (own : Nameless left.toList) : dialect.Shows [] [.sql left] :=
  shows_nothing (Piece.written_sql own)

theorem written_placeholder (value : Value) :
    Piece.Written dialect.profile Parting [.slot value] :=
  Piece.written_slot dialect.parting_placeholder value

theorem shows_compared
    (own : Finds left.toList ((dialect.behindFrom columns).map lastSegment))
    (operator : Operator) (value : Value) :
    dialect.Shows columns [.sql (left ++ " " ++ operator.text ++ " "), .slot value] := by
  intro number
  have slot : Parting (Piece.writeFrom dialect.profile.placeholder number [.slot value]) :=
    written_placeholder value number
  have clear : Clear ((" " ++ operator.text ++ " ").toList ++
      Piece.writeFrom dialect.profile.placeholder number [.slot value]) := by
    rw [String.append_assoc, String.toList_append]
    exact Clear.space _
  have text : (left ++ " " ++ operator.text ++ " ").toList =
      left.toList ++ (" " ++ operator.text ++ " ").toList := by
    simp
  have whole := own.append ((parting_operator operator).append slot).nameless.finds clear
  rw [List.append_nil] at whole
  rw [Piece.writeFrom, text, List.append_assoc]
  exact whole

theorem shows_against (own : Nameless left.toList) (operator : Operator) (value : Value) :
    dialect.Shows [] [.sql (left ++ " " ++ operator.text ++ " "), .slot value] := by
  refine shows_compared ?_ operator value
  rw [dialect.behindFrom_nil]
  exact own.finds

theorem shows_comparison (plain : IsPlainName column) {operator : String} {value : Value}
    (made : Piece.comparison dialect.profile column operator value = .ok pieces) :
    dialect.Shows [] pieces := by
  obtain ⟨operation, _, further⟩ := exists_of_bind_ok made
  obtain ⟨rendered, accepted, last⟩ := exists_of_bind_ok further
  have own := parting_column plain accepted
  split at last
  · cases last
    exact shows_text (own.followed (by decide))
  · split at last
    · cases last
      exact shows_text (own.followed (by decide))
    · cases last
      exact shows_against own.nameless operation value

theorem written_slots (dialect : Dialect) (values : List Value) :
    Piece.Written dialect.profile Nameless (Piece.listed values) := by
  rw [Piece.listed_eq_separated]
  refine Piece.written_joined Nameless.nothing (fun own other => own.join (by decide) other) ?_
  intro entry member
  obtain ⟨value, _, rfl⟩ := List.mem_map.mp member
  exact fun number => (written_placeholder value number).nameless

theorem shows_membership (plain : IsPlainName column) {negated : Bool} {values : List Value}
    (made : Piece.membership dialect.profile negated column values = .ok pieces) :
    dialect.Shows [] pieces := by
  obtain ⟨rendered, accepted, last⟩ := exists_of_bind_ok made
  split at last
  · cases last
    refine shows_text ?_
    cases negated with
    | _ => decide
  · cases last
    have keyword : Parting (" " ++ (if negated then "NOT IN" else "IN") ++ " (").toList := by
      cases negated with
      | _ => decide
    have opening := (parting_column plain accepted).closed keyword
    rw [← String.append_assoc, ← String.append_assoc] at opening
    have list := Piece.Written.append Parting.then_nameless (Piece.written_sql opening)
      (dialect.written_slots values)
    exact shows_nothing
      (Piece.Written.append Nameless.then_parting list (Piece.written_sql (by decide)))

theorem shows_range (own : Nameless left.toList) (low high : Value) :
    dialect.Shows [] (Piece.range left low high) := by
  have least : Piece.Written dialect.profile Nameless [.sql left, .slot low] :=
    Piece.Written.append Nameless.then_parting (Piece.written_sql own) (written_placeholder low)
  have most : Piece.Written dialect.profile Parting [.sql " AND ", .slot high] :=
    Piece.Written.append Parting.append (Piece.written_sql (by decide)) (written_placeholder high)
  exact shows_nothing (Piece.Written.append Nameless.then_parting least most)

theorem shows_between (plain : IsPlainName column) {negated : Bool} {low high : Value}
    (made : Piece.between dialect.profile negated column low high = .ok pieces) :
    dialect.Shows [] pieces := by
  obtain ⟨rendered, accepted, last⟩ := exists_of_bind_ok made
  cases last
  have keyword : Parting (" " ++ (if negated then "NOT BETWEEN" else "BETWEEN") ++ " ").toList := by
    cases negated with
    | _ => decide
  have opening := (parting_column plain accepted).closed keyword
  rw [← String.append_assoc, ← String.append_assoc] at opening
  exact shows_range opening.nameless low high

theorem shows_nullTest (plain : IsPlainName column) {negated : Bool}
    (made : Piece.nullTest dialect.profile negated column = .ok pieces) :
    dialect.Shows [] pieces := by
  obtain ⟨rendered, accepted, last⟩ := exists_of_bind_ok made
  cases last
  refine shows_text ((parting_column plain accepted).followed ?_)
  cases negated with
  | _ => decide

theorem shows_date (plain : IsPlainName column) {operator : String} {value : Value}
    (made : Piece.datePart dialect.profile .date column operator value = .ok pieces) :
    dialect.Shows [] pieces := by
  obtain ⟨operation, _, further⟩ := exists_of_bind_ok made
  obtain ⟨rendered, accepted, last⟩ := exists_of_bind_ok further
  cases last
  exact shows_against (dialect.nameless_dateOf (parting_column plain accepted)) operation value

theorem shows_datePart (plain : IsPlainName column) {part : DatePart} {operator : String}
    {value : Value}
    (made : Piece.datePart dialect.profile part column operator value = .ok pieces)
    (own : part ≠ .date) : dialect.Shows [column] pieces := by
  obtain ⟨operation, _, further⟩ := exists_of_bind_ok made
  obtain ⟨rendered, accepted, last⟩ := exists_of_bind_ok further
  cases last
  exact shows_compared (finds_extract plain accepted own) operation value

theorem shows_relativeDate (plain : IsPlainName column) {comparison relative : String}
    (between : Parting comparison.toList) (computed : Nameless relative.toList)
    (made : Piece.relativeDate dialect.profile column comparison relative = .ok pieces) :
    dialect.Shows [] pieces := by
  obtain ⟨rendered, accepted, last⟩ := exists_of_bind_ok made
  cases last
  have own := dialect.nameless_dateOf (parting_column plain accepted)
  refine shows_text ?_
  rw [String.append_assoc, String.toList_append, String.toList_append]
  exact own.join between computed

theorem shows_dateRange (plain : IsPlainName column) {start stop : DateInput}
    (made : Piece.dateRange dialect.profile column start stop = .ok pieces) :
    dialect.Shows [] pieces := by
  obtain ⟨_, _, further⟩ := exists_of_bind_ok made
  obtain ⟨_, _, further⟩ := exists_of_bind_ok further
  obtain ⟨rendered, accepted, last⟩ := exists_of_bind_ok further
  cases last
  have own := dialect.nameless_dateOf (parting_column plain accepted)
  exact shows_range (own.closed (by decide)) _ _

theorem shows_having (plain : IsPlainName column) {operator : String} {value : Value}
    (made : Piece.having dialect.profile column operator value = .ok pieces) :
    dialect.Shows [] pieces := by
  obtain ⟨operation, _, further⟩ := exists_of_bind_ok made
  obtain ⟨rendered, accepted, last⟩ := exists_of_bind_ok further
  cases last
  exact shows_against (parting_column plain accepted).nameless operation value

theorem Shows.enclosed (own : dialect.Shows columns pieces) :
    dialect.Shows columns (Piece.enclosed pieces) := by
  intro number
  rw [Piece.writeFrom_enclosed]
  exact (own number).enclosed

theorem shows_nil_iff :
    dialect.Shows columns [] ↔ (dialect.behindFrom columns).map lastSegment = [] := by
  constructor
  · intro own
    exact (own 0).unique Nameless.nothing.finds
  · intro none number
    rw [none]
    exact Nameless.nothing.finds

theorem Shows.behind {lead : String} (own : Nameless lead.toList)
    (shown : dialect.Shows columns pieces) :
    dialect.Shows columns (.sql (lead ++ " ") :: pieces) := by
  intro number
  have text : (lead ++ " ").toList = lead.toList ++ [' '] := String.toList_append
  rw [Piece.writeFrom, text, List.append_assoc]
  exact own.finds.append (shown number).space (Clear.space _)

theorem Shows.concat {conditions : List Condition}
    (shown : dialect.Shows columns (Piece.chain conditions)) (combinator : Combinator)
    (own : dialect.Shows more pieces) :
    dialect.Shows (columns ++ more) (Piece.chain (conditions ++ [⟨combinator, pieces⟩])) := by
  intro number
  rw [dialect.behindFrom_append, List.map_append]
  cases conditions with
  | nil =>
      rw [shows_nil_iff.mp shown, List.nil_append, List.nil_append, Piece.writeFrom_single]
      exact own number
  | cons first rest =>
      have joint : Nameless (" " ++ combinator.text).toList := by
        cases combinator with
        | _ => decide
      rw [List.cons_append, Piece.chain_concat, Piece.writeFrom_append]
      refine (shown number).append (own.behind joint _) ?_
      rw [Piece.writeFrom, String.append_assoc, String.toList_append]
      exact Clear.space _

theorem Shows.conditions {conditions : List Condition} {keyword : String}
    (lead : Nameless (" " ++ keyword).toList)
    (shown : dialect.Shows columns (Piece.chain conditions)) :
    dialect.Shows columns (Draft.conditionPieces keyword conditions) := by
  unfold Draft.conditionPieces
  split
  · rename_i empty
    rw [List.isEmpty_iff.mp empty] at shown
    exact shown
  · exact shown.behind lead

end Conditions

end Dialect

end BoundQuery
