import BoundQuery.Proofs.ClauseOrder
import BoundQuery.Proofs.Conjunction
import BoundQuery.Proofs.CursorScope
import Mathlib.Data.List.Forall2

/-!
What the conditions of `HAVING` mean together. The builder joins them by `AND` as the calls bring
them, so they hold where the condition of every call does; a raw one with an `OR` of its own is not
put in parentheses, and where it holds the others need not.
-/

set_option autoImplicit false

namespace BoundQuery

/-- A raw condition of `WHERE` always conjoins, since the builder puts it in parentheses. -/
theorem Piece.conjoins_whereRaw {profile : Profile} (readable : profile.Readable) {sql : List Char}
    (whole : wellParenthesised sql = true) (values : List Value) (number : Nat) :
    Conjoins (writeFrom profile.placeholder number
      (enclosed (fillSlots (Part.ofRaw (Text.trimChars sql)) values))) := by
  have filled := wellParenthesised_filled readable.unmarked whole values number
  rw [writeFrom_enclosed]
  exact conjoins_of_enclosed
    (fun valuation position => leads_of_wellParenthesised filled valuation { position := position })

/-- What a call adds to `HAVING`. -/
def Call.havingPieces (profile : Profile) : Call → Option (Except QueryError (List Piece))
  | .having column operator value => some (Piece.having profile column operator value)
  | .havingRaw sql values => some (Piece.rawCondition "having" sql values)
  | _ => none

/-- The columns of `HAVING` are plain, and its raw texts are conditions: they close all that they
open, and their `BETWEEN`s have an `AND`. An `OR` may stand anywhere in them. -/
def Call.HavingCloses (profile : Profile) : Call → Prop
  | .having column _ _ => IsPlainName column
  | .havingRaw sql values => ∀ number, Closes (Piece.writeFrom profile.placeholder number
      (fillSlots (Part.ofRaw (Text.trimChars sql.toList)) values))
  | _ => True

/-- The raw texts of `HAVING` have no `OR` outside of quotes and parentheses. -/
def Call.HavingWhole (profile : Profile) : Call → Prop
  | .havingRaw sql values => ∀ number, hasOwnOr {} [] (Piece.writeFrom profile.placeholder number
      (fillSlots (Part.ofRaw (Text.trimChars sql.toList)) values)) = false
  | _ => True

namespace Piece

variable {profile : Profile}

/-- The texts of conditions whose slots are numbered through. -/
def texts (placeholder : Nat → String) : Nat → List Condition → List (List Char)
  | _, [] => []
  | number, condition :: rest =>
      writeFrom placeholder number condition.pieces ::
        texts placeholder (number + (values condition.pieces).length) rest

theorem writeFrom_conjoined {placeholder : Nat → String} {rest : List Condition} :
    ∀ {number : Nat}, (∀ condition ∈ rest, condition.combinator = .and) →
      writeFrom placeholder number (rest.flatMap fun condition =>
          .sql (" " ++ condition.combinator.text ++ " ") :: condition.pieces) =
        (texts placeholder number rest).flatMap fun text =>
          (" " ++ Combinator.and.text ++ " ").toList ++ text := by
  induction rest with
  | nil => exact fun _ => rfl
  | cons condition rest ih =>
      intro number joined
      obtain ⟨own, others⟩ := List.forall_mem_cons.mp joined
      rw [List.flatMap_cons, writeFrom_append, ih others, own]
      rfl

theorem writeFrom_chain {placeholder : Nat → String} {conditions : List Condition}
    (joined : ∀ condition ∈ conditions, condition.combinator = .and) (number : Nat) :
    writeFrom placeholder number (chain conditions) =
      joinTexts (texts placeholder number conditions) := by
  cases conditions with
  | nil => rfl
  | cons first rest =>
      rw [chain, writeFrom_append,
        writeFrom_conjoined (List.forall_mem_cons.mp joined).2]
      rfl

theorem phrase_having (readable : profile.Readable) {column operator : String} {value : Value}
    {pieces : List Piece} (plain : IsPlainName column)
    (made : having profile column operator value = .ok pieces) (number : Nat) :
    Phrase (writeFrom profile.placeholder number pieces) := by
  obtain ⟨operation, _, further⟩ := exists_of_bind_ok made
  obtain ⟨rendered, accepted, last⟩ := exists_of_bind_ok further
  have phrase := readable.column column rendered plain accepted
  cases last
  exact Condition.phrase_comparison readable phrase operation value number

end Piece

namespace Call

variable {profile : Profile} {call : Call} {pieces : List Piece}

theorem closes_havingPieces (readable : profile.Readable) (own : call.HavingCloses profile)
    (made : call.havingPieces profile = some (.ok pieces)) (number : Nat) :
    Closes (Piece.writeFrom profile.placeholder number pieces) := by
  cases call with
  | having column operator value =>
      exact (Piece.phrase_having readable own (Option.some.inj made) number).undivided.closes
  | havingRaw sql values =>
      obtain ⟨_, _, rfl⟩ := Piece.rawCondition_ok (Option.some.inj made)
      exact own number
  | _ => cases made

theorem conjoins_havingPieces (readable : profile.Readable) (own : call.HavingCloses profile)
    (whole : call.HavingWhole profile) (made : call.havingPieces profile = some (.ok pieces))
    (number : Nat) : Conjoins (Piece.writeFrom profile.placeholder number pieces) := by
  cases call with
  | having column operator value =>
      exact (Piece.phrase_having readable own (Option.some.inj made) number).conjoins
  | havingRaw sql values =>
      obtain ⟨_, _, rfl⟩ := Piece.rawCondition_ok (Option.some.inj made)
      exact (own number).conjoins (whole number)
  | _ => cases made

end Call

namespace Draft

variable {profile : Profile} {draft next : Draft}

def MadeBy (made : Except QueryError (List Piece)) (condition : Condition) : Prop :=
  made = .ok condition.pieces ∧ condition.combinator = .and

theorem havingPieces_of_other {call : Call} (other : call.clause ≠ .havings) :
    call.havingPieces profile = none := by
  cases call with
  | having column operator value => exact absurd rfl other
  | havingRaw sql values => exact absurd rfl other
  | _ => rfl

theorem addHaving_made {made : Except QueryError (List Piece)}
    (applied : made.map draft.addHaving = .ok next) :
    ∃ condition, next.havings = draft.havings ++ [condition] ∧ MadeBy made condition := by
  obtain ⟨pieces, same, reached⟩ := exists_of_map_ok applied
  rw [← reached]
  exact ⟨⟨.and, pieces⟩, rfl, same, rfl⟩

theorem apply_havings {call : Call} (applied : draft.apply profile call = .ok next) :
    ∃ added, next.havings = draft.havings ++ added ∧
      List.Forall₂ MadeBy (call.havingPieces profile).toList added := by
  by_cases own : call.clause = .havings
  · cases call with
    | having column operator value =>
        simp only [apply] at applied
        obtain ⟨condition, same, made⟩ := addHaving_made applied
        exact ⟨[condition], same, .cons made .nil⟩
    | havingRaw sql values =>
        simp only [apply] at applied
        obtain ⟨condition, same, made⟩ := addHaving_made applied
        exact ⟨[condition], same, .cons made .nil⟩
    | _ => cases own
  · have same : next.content .havings = draft.content .havings := content_apply applied own
    change next.havings = draft.havings at same
    rw [havingPieces_of_other own]
    exact ⟨[], by rw [same, List.append_nil], .nil⟩

/-- Every call of `HAVING` leaves one condition there, and no other call does. -/
theorem applyAll_havings {calls : List Call} : ∀ {draft reached : Draft},
    draft.applyAll profile calls = .ok reached →
      ∃ added, reached.havings = draft.havings ++ added ∧
        List.Forall₂ MadeBy (calls.filterMap (Call.havingPieces profile)) added := by
  induction calls with
  | nil =>
      intro draft reached accepted
      cases accepted
      exact ⟨[], by rw [List.append_nil], .nil⟩
  | cons call rest ih =>
      intro draft reached accepted
      obtain ⟨next, step, further⟩ := applyAll_cons_ok accepted
      obtain ⟨first, one, own⟩ := apply_havings step
      obtain ⟨others, all, made⟩ := ih further
      refine ⟨first ++ others, by rw [all, one, List.append_assoc], ?_⟩
      rw [List.filterMap_cons]
      cases found : call.havingPieces profile with
      | none =>
          rw [found] at own
          cases own
          exact made
      | some pieces =>
          rw [found] at own
          cases own with
          | cons same none =>
              cases none
              exact .cons same made

/-- The text of a query has these conditions between its grouping and its order. -/
def ReadsHaving (profile : Profile) (draft : Draft) (texts : List (List Char)) (sql : String) :
    Prop :=
  sql.toList =
    draft.frame.projectionText.toList ++ draft.frame.sourceText.toList ++
      (match draft.whereText profile with
        | none => []
        | some conditions => " WHERE ".toList ++ conditions) ++
      draft.frame.groupText.toList ++
      (if texts.isEmpty then [] else " HAVING ".toList ++ joinTexts texts) ++
      draft.frame.orderText.toList ++ (draft.frame.pagingText profile).toList

theorem writeFrom_havings (joined : ∀ condition ∈ draft.havings, condition.combinator = .and)
    (number : Nat) :
    Piece.writeFrom profile.placeholder number (conditionPieces "HAVING" draft.havings) =
      if (Piece.texts profile.placeholder number draft.havings).isEmpty then []
      else " HAVING ".toList ++
        joinTexts (Piece.texts profile.placeholder number draft.havings) := by
  cases conditions : draft.havings with
  | nil => rfl
  | cons first rest =>
      rw [conditions] at joined
      rw [← Piece.writeFrom_chain joined]
      rfl

def Written (profile : Profile) (made : Except QueryError (List Piece)) (text : List Char) : Prop :=
  ∃ pieces number, made = .ok pieces ∧
    text = Piece.writeFrom profile.placeholder number pieces

theorem written_texts {made : List (Except QueryError (List Piece))} {conditions : List Condition}
    (own : List.Forall₂ MadeBy made conditions) : ∀ number,
      List.Forall₂ (Written profile) made (Piece.texts profile.placeholder number conditions) := by
  induction own with
  | nil => exact fun _ => .nil
  | cons same _ ih => exact fun number => .cons ⟨_, number, same.1, rfl⟩ (ih _)

theorem and_of_made {made : List (Except QueryError (List Piece))} {conditions : List Condition}
    (own : List.Forall₂ MadeBy made conditions) :
    ∀ condition ∈ conditions, condition.combinator = .and := by
  induction own with
  | nil => exact fun _ member => by cases member
  | cons same _ ih => exact List.forall_mem_cons.mpr ⟨same.2, ih⟩

theorem forall_written {test : List Char → Prop} {calls : List Call} {texts : List (List Char)}
    (written : List.Forall₂ (Written profile) (calls.filterMap (Call.havingPieces profile)) texts)
    (each : ∀ call ∈ calls, ∀ pieces, call.havingPieces profile = some (.ok pieces) →
      ∀ number, test (Piece.writeFrom profile.placeholder number pieces)) :
    ∀ text ∈ texts, test text := by
  have own : ∀ made ∈ calls.filterMap (Call.havingPieces profile), ∀ pieces, made = .ok pieces →
      ∀ number, test (Piece.writeFrom profile.placeholder number pieces) := by
    intro made among pieces same
    obtain ⟨call, member, found⟩ := List.mem_filterMap.mp among
    exact each call member pieces (found.trans (congrArg some same))
  clear each
  generalize calls.filterMap (Call.havingPieces profile) = made at written own
  induction written with
  | nil => exact fun _ member => by cases member
  | cons head _ ih =>
      obtain ⟨initial, others⟩ := List.forall_mem_cons.mp own
      obtain ⟨pieces, number, same, shown⟩ := head
      refine List.forall_mem_cons.mpr ⟨?_, ih others⟩
      rw [shown]
      exact initial pieces same number

end Draft

/-- Where the calls of `HAVING` bring texts, these stand joined in the statement. They hold where
the condition of every call does, and nowhere else if no raw text has an `OR` of its own or there is
only one: that they hold where one does not takes a text that divides them and holds. -/
theorem having_holds_where_its_calls_do (profile : Profile) (readable : profile.Readable)
    (cacheable : Bool) (calls : List Call) (builder : Builder)
    (closing : ∀ call ∈ calls, call.HavingCloses profile)
    (reached : ({ profile := profile, cacheable := cacheable } : Builder).applyAll calls =
      .ok builder)
    (query : builder.clauses.raw = none ∧ builder.clauses.isWrite = false) :
    ∃ statement texts, builder.statement = .ok statement ∧
      builder.clauses.draft.ReadsHaving profile texts statement.sql ∧
      List.Forall₂ (Draft.Written profile) (calls.filterMap (Call.havingPieces profile)) texts ∧
      (texts ≠ [] → ∀ valuation, Conjunction valuation texts ∧
        ((∀ call ∈ calls, call.HavingWhole profile) ∨ texts.length = 1 →
          ∃ count values, readEach valuation 0 texts = some values ∧
            readCondition valuation (joinTexts texts) = some (values.all id, count))) := by
  obtain ⟨kind, aligned, meant⟩ := Builder.reached_draft reached
  obtain ⟨unset, idle⟩ := query
  let draft := builder.clauses.draft
  obtain ⟨added, own, made⟩ := Draft.applyAll_havings meant
  have havings : draft.havings = added := own
  rw [← havings] at made
  have resting : draft.isWrite = false := by rw [Clauses.draft_isWrite, idle]
  obtain ⟨number, text⟩ : draft.Reads profile (draft.whereText profile)
      (Piece.statement profile (draft.pieces profile)).sql := Draft.reads_statement resting
  have compiled : builder.statement = .ok (Piece.statement profile (draft.pieces profile)) := by
    have whole := Builder.statementOf_eq aligned unset .whole
    rw [kind] at whole
    exact whole
  have written : List.Forall₂ (Draft.Written profile) _
      (Piece.texts profile.placeholder number draft.havings) := Draft.written_texts made number
  refine ⟨_, _, compiled, ?_, written, ?_⟩
  · rw [Draft.writeFrom_havings (Draft.and_of_made made)] at text
    exact text
  · intro some valuation
    have closes := Draft.forall_written written fun call member pieces made =>
      Call.closes_havingPieces readable (closing call member) made
    have conjunction := conjunction_of_closes some closes valuation
    refine ⟨conjunction, fun kept => conjunction.exact (kept.imp_left fun whole => ?_)⟩
    exact Draft.forall_written written fun call member pieces made =>
      Call.conjoins_havingPieces readable (closing call member) (whole call member) made

/-- A team is busy or favoured, and its total is above a limit. -/
def favouredTeams : List Call :=
  [.readFrom "orders", .groupBy ["team"], .havingRaw "COUNT(*) > 5 OR vip" [],
    .having "total" ">" (.int 1)]

theorem favoured_teams_hold_where_both_do :
    ∃ builder : Builder,
      ({ profile := Dialect.postgresql.profile } : Builder).applyAll favouredTeams = .ok builder ∧
      ∃ statement texts, builder.statement = .ok statement ∧ texts.length = 2 ∧
        builder.clauses.draft.ReadsHaving Dialect.postgresql.profile texts statement.sql ∧
        ∀ valuation, Conjunction valuation texts := by
  have query : (({ profile := Dialect.postgresql.profile } : Builder).applyAll
      favouredTeams).toOption.map (fun builder =>
        (builder.clauses.raw.isNone, builder.clauses.isWrite)) = some (true, false) := by
    decide +kernel
  have closes (number : Nat) :
      Closes (Piece.writeFrom Dialect.postgresql.profile.placeholder number
        (fillSlots (Part.ofRaw (Text.trimChars "COUNT(*) > 5 OR vip".toList)) [])) :=
    fun valuation before closed => ⟨_, ⟨_, rfl, rfl⟩, rfl⟩
  have closing : ∀ call ∈ favouredTeams, call.HavingCloses Dialect.postgresql.profile := by
    simp only [favouredTeams, List.forall_mem_cons, Call.HavingCloses]
    exact ⟨trivial, trivial, closes, by decide, nofun⟩
  obtain ⟨builder, reached, shape⟩ := exists_of_toOption_map query
  obtain ⟨unset, idle⟩ := Prod.mk.inj shape
  obtain ⟨statement, texts, compiled, read, written, conjunction⟩ :=
    having_holds_where_its_calls_do Dialect.postgresql.profile Dialect.postgresql.readable
      false favouredTeams builder closing reached ⟨Option.isNone_iff_eq_none.mp unset, idle⟩
  have two : texts.length = 2 := written.length_eq.symm
  have some : texts ≠ [] := by
    rintro rfl
    cases two
  exact ⟨builder, reached, statement, texts, compiled, two, read,
    fun valuation => (conjunction some valuation).1⟩

def Valuation.only (operand : String) : Valuation :=
  { operand := fun _ text => text == operand.toList }

/-- A busy team is reported although its total is below the limit. -/
theorem busy_team_escapes_the_limit :
    ((({ profile := Dialect.postgresql.profile } : Builder).applyAll favouredTeams).bind
        Builder.statement).toOption.map Statement.sql =
      some ("SELECT * FROM \"orders\" GROUP BY \"team\" HAVING " ++
        "COUNT(*) > 5 OR vip AND \"total\" > $1") ∧
    readCondition (.only "COUNT(*) > 5") "COUNT(*) > 5 OR vip AND \"total\" > $1".toList =
      some (true, 3) ∧
    readEach (.only "COUNT(*) > 5") 0
      ["COUNT(*) > 5 OR vip".toList, "\"total\" > $1".toList] = some [true, false] := by
  decide +kernel

end BoundQuery
