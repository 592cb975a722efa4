import BoundQuery.Proofs.Numbering
import BoundQuery.Proofs.Simulation

/-!
Aligned clauses always compile, and to the statement of their draft. So every statement that a
program of calls leads to, the builder's own or one made from it for a reading operation, binds each
value at the number of the slot for which it was given.
-/

set_option autoImplicit false

namespace BoundQuery

open Piece (Alike)

/-! ### Compilation -/

theorem Fragment.Filled.pieces_eq {fragment : Fragment} {bindings : BindingList}
    (filled : fragment.Filled bindings) :
    fragment.pieces bindings =
      .ok (fillSlots fragment.parts (bindings.slice fragment.span)) := by
  have size : (bindings.slice fragment.span).length = fragment.slotCount := by
    rw [BindingList.length_slice filled.within, filled.size]
  simp only [Fragment.pieces, size, if_true]

theorem furtherPredicates_alike (bindings : BindingList) (predicates : List Predicate)
    (filled : ∀ predicate ∈ predicates, predicate.fragment.Filled bindings) :
    ∃ pieces, furtherPredicates bindings predicates = .ok pieces ∧
      Alike pieces ((predicates.map (Predicate.condition bindings)).flatMap (fun condition =>
        .sql (" " ++ condition.combinator.text ++ " ") :: condition.pieces)) := by
  induction predicates with
  | nil => exact ⟨[], rfl, Alike.refl []⟩
  | cons predicate rest ih =>
      have own := (filled predicate List.mem_cons_self).pieces_eq
      obtain ⟨further, written, alike⟩ :=
        ih (fun other member => filled other (List.mem_cons_of_mem _ member))
      refine ⟨_, by rw [furtherPredicates, own, written]; rfl, ?_⟩
      exact (Alike.merged " " predicate.combinator.text " " _).trans
        (Alike.cons _ ((Alike.refl _).append alike))

theorem predicatePieces_alike (keyword : String) (bindings : BindingList)
    (predicates : List Predicate)
    (filled : ∀ predicate ∈ predicates, predicate.fragment.Filled bindings) :
    ∃ pieces, predicatePieces keyword bindings predicates = .ok pieces ∧
      Alike pieces (Draft.conditionPieces keyword
        (predicates.map (Predicate.condition bindings))) := by
  cases predicates with
  | nil => exact ⟨[], rfl, Alike.refl []⟩
  | cons first rest =>
      have own := (filled first List.mem_cons_self).pieces_eq
      obtain ⟨further, written, alike⟩ := furtherPredicates_alike bindings rest
        (fun other member => filled other (List.mem_cons_of_mem _ member))
      refine ⟨_, by rw [predicatePieces, own, written]; rfl, ?_⟩
      exact Alike.cons _ ((Alike.refl _).append alike)

namespace Clauses

variable {clauses : Clauses}

theorem pieces_alike (aligned : clauses.Aligned) (profile : Profile) :
    ∃ pieces, clauses.pieces profile = .ok pieces ∧
      Alike pieces (clauses.draft.pieces profile) := by
  obtain ⟨wheres, wheresWritten, wheresAlike⟩ :=
    predicatePieces_alike "WHERE" clauses.bindings clauses.wheres aligned.wheres
  obtain ⟨havings, havingsWritten, havingsAlike⟩ :=
    predicatePieces_alike "HAVING" clauses.bindings clauses.havings aligned.havings
  unfold pieces Draft.pieces
  cases inserting : clauses.insert with
  | some insert =>
      obtain ⟨within, wide, size⟩ := aligned.insert insert inserting
      have fits : (clauses.bindings.slice insert.span).length =
          insert.columns.length * insert.rowCount := by
        rw [BindingList.length_slice within, size]
      have refused : ¬(insert.columns.length = 0 ∨
          (clauses.bindings.slice insert.span).length ≠
            insert.columns.length * insert.rowCount) := by
        omega
      simp only [draft, inserting, Option.map_some, Insert.pieces, Piece.slotList_eq]
      rw [if_neg (by simpa using refused)]
      exact ⟨_, rfl, Alike.refl _⟩
  | none =>
      cases updating : clauses.update with
      | some update =>
          obtain ⟨within, size⟩ := aligned.update update updating
          have fits : (clauses.bindings.slice update.span).length = update.columns.length := by
            rw [BindingList.length_slice within, size]
          have written : update.pieces clauses.bindings =
              .ok (Draft.assignmentPieces (update.assignment clauses.bindings)) := by
            rw [Update.pieces, if_pos fits]
            rfl
          simp only [draft, inserting, updating, Option.map_some, Option.map_none, written,
            wheresWritten]
          exact ⟨_, rfl, (Alike.refl _).append wheresAlike⟩
      | none =>
          cases deleting : clauses.delete with
          | some delete =>
              simp only [draft, frame, inserting, updating, deleting, Option.map_none,
                wheresWritten]
              exact ⟨_, rfl, Alike.cons _ wheresAlike⟩
          | none =>
              simp only [draft, frame, inserting, updating, deleting, Option.map_none,
                selectPieces, wheresWritten, havingsWritten]
              refine ⟨_, rfl, Alike.cons _ ?_⟩
              have regrouped := List.append_assoc wheres
                (.sql clauses.groupText :: havings)
                [.sql (clauses.orderText ++ clauses.pagingText profile)]
              rw [List.append_eq, List.append_eq, regrouped]
              exact wheresAlike.append (Alike.cons _ (havingsAlike.append (Alike.refl _)))

theorem compile_eq (aligned : clauses.Aligned) (profile : Profile) :
    clauses.compile profile = .ok (clauses.draft.statement profile) := by
  unfold compile Draft.statement
  cases raw : clauses.raw with
  | some statement =>
      simp only [draft, raw, Option.map_some]
      rfl
  | none =>
      obtain ⟨pieces, written, alike⟩ := pieces_alike aligned profile
      simp only [draft, raw, Option.map_none, written]
      exact congrArg Except.ok (alike.statement profile)

theorem draft_raw (typed : clauses.raw = none) : clauses.draft.raw = none := by
  simp only [draft, typed, Option.map_none]

theorem draft_isWrite (clauses : Clauses) : clauses.draft.isWrite = clauses.isWrite := by
  simp only [Draft.isWrite, isWrite, draft, frame, Option.isSome_map]

theorem SameValues.compile_eq {changed : Clauses} (same : clauses.SameValues changed)
    (aligned : clauses.Aligned) (typed : clauses.raw = none) (profile : Profile) :
    changed.compile profile =
      .ok (Piece.statement profile
        ((clauses.draft.reframe fun _ => changed.frame).pieces profile)) := by
  have unset : changed.draft.raw = none := draft_raw (same.raw.trans typed)
  rw [Clauses.compile_eq (same.aligned aligned)]
  unfold Draft.statement
  rw [unset, same.draft]
  rfl

theorem emptied_aligned (aligned : clauses.Aligned) : { clauses with wheres := [] }.Aligned :=
  ⟨fun predicate member => (by cases member), aligned.havings, aligned.insert, aligned.update,
    aligned.raw⟩

theorem groupWheres_aligned (aligned : clauses.Aligned) : clauses.groupWheres.Aligned := by
  unfold groupWheres
  split
  · exact addWhere_aligned (emptied_aligned aligned) _ _ _
      ((countP_parenthesized _).trans (countP_chainParts _ _ aligned.wheres))
  · exact aligned

theorem draft_groupWheres (aligned : clauses.Aligned) :
    clauses.groupWheres.draft = clauses.draft.foldWheres := by
  have joined : (clauses.draft.wheres.drop 1).any (fun condition => condition.combinator == .or) =
      (clauses.wheres.drop 1).any (fun predicate => predicate.combinator == .or) := by
    simp only [draft, ← List.map_drop, List.any_map]
    rfl
  unfold groupWheres Draft.foldWheres
  rw [joined]
  split
  · rw [draft_addWhere (emptied_aligned aligned), fillSlots_parenthesized _ _
      (countP_chainParts _ _ aligned.wheres), fillSlots_chain _ _ aligned.wheres]
    rfl
  · rfl

theorem raw_groupWheres (clauses : Clauses) : clauses.groupWheres.raw = clauses.raw := by
  unfold groupWheres
  split
  · rfl
  · rfl

end Clauses

namespace Builder

variable {builder : Builder}

theorem requireSelect_eq (typed : builder.clauses.raw = none) (terminal : String) :
    Engine.requireSelect builder terminal = builder.clauses.draft.requireSelect terminal := by
  unfold Engine.requireSelect Draft.requireSelect
  rw [Clauses.draft_isWrite, Clauses.draft_raw typed, typed]
  rfl

theorem aggregateStatement_eq (aligned : builder.clauses.Aligned)
    (typed : builder.clauses.raw = none) (expression : String) :
    builder.aggregateStatement expression =
      (builder.clauses.draft.aggregatePieces builder.profile expression).map
        (Piece.statement builder.profile) := by
  unfold aggregateStatement Draft.aggregatePieces
  rw [requireSelect_eq typed]
  cases builder.clauses.draft.requireSelect "aggregate" with
  | error error => rfl
  | ok _ =>
      change (if builder.clauses.groups.isEmpty && !builder.clauses.distinct then _ else _) =
        Except.map _ (if builder.clauses.groups.isEmpty && !builder.clauses.distinct then _ else _)
      split
      · have same : builder.clauses.SameValues
            (builder.clauses.forAggregate (expression ++ " AS " ++ aggregateAlias)) :=
          ⟨rfl, rfl, rfl, rfl, rfl, rfl⟩
        exact same.compile_eq aligned typed _
      · have same : builder.clauses.SameValues
            { builder.clauses with orders := [], limit := none, offset := none } :=
          ⟨rfl, rfl, rfl, rfl, rfl, rfl⟩
        rw [same.compile_eq aligned typed]
        exact congrArg Except.ok (Piece.statement_between _ _ _ _).symm

theorem draft_cursorClauses (aligned : builder.clauses.Aligned) (column : String)
    (after : Option Value) (limit : Nat) :
    (builder.cursorClauses column after limit).draft =
      (builder.clauses.draft.behindCursor column after).reframe fun frame =>
        { frame with
          orders := [⟨column, .ascending, false⟩]
          limit := some (limit + 1)
          offset := none } := by
  cases after with
  | none => rfl
  | some value =>
      let narrowed :=
        builder.clauses.groupWheres.addWhere .and [.sql (column ++ " > "), .slot] [value]
      have meant : narrowed.draft = builder.clauses.draft.behindCursor column (some value) := by
        rw [Clauses.draft_addWhere (Clauses.groupWheres_aligned aligned),
          Clauses.draft_groupWheres aligned]
        rfl
      rw [← meant]
      rfl

theorem cursorClauses_compile (aligned : builder.clauses.Aligned)
    (typed : builder.clauses.raw = none) (column : String) (after : Option Value) (limit : Nat) :
    (builder.cursorClauses column after limit).compile builder.profile =
      .ok (Piece.statement builder.profile
        ((builder.cursorClauses column after limit).draft.pieces builder.profile)) := by
  cases after with
  | none =>
      have same : builder.clauses.SameValues (builder.cursorClauses column none limit) :=
        ⟨rfl, rfl, rfl, rfl, rfl, rfl⟩
      exact same.compile_eq aligned typed _
  | some value =>
      let narrowed :=
        builder.clauses.groupWheres.addWhere .and [.sql (column ++ " > "), .slot] [value]
      have narrow : narrowed.Aligned :=
        Clauses.addWhere_aligned (Clauses.groupWheres_aligned aligned) _ _ _ rfl
      have untyped : narrowed.raw = none := (Clauses.raw_groupWheres _).trans typed
      have same : narrowed.SameValues (builder.cursorClauses column (some value) limit) :=
        ⟨rfl, rfl, rfl, rfl, rfl, rfl⟩
      rw [same.compile_eq narrow untyped]
      rfl

/-- Each request sends what the draft has for it, and is refused where the draft refuses it. -/
theorem statementOf_eq (aligned : builder.clauses.Aligned) (typed : builder.clauses.raw = none)
    (request : Request) :
    builder.statementOf request =
      (builder.clauses.draft.piecesFor builder.profile request).map
        (Piece.statement builder.profile) := by
  have compiled : ∀ changed, builder.clauses.SameValues changed →
      changed.compile builder.profile =
        .ok (Piece.statement builder.profile
          ((builder.clauses.draft.reframe fun _ => changed.frame).pieces builder.profile)) :=
    fun changed same => same.compile_eq aligned typed _
  cases request with
  | whole => exact compiled _ ⟨rfl, rfl, rfl, rfl, rfl, rfl⟩
  | limited count => exact compiled _ ⟨rfl, rfl, rfl, rfl, rfl, rfl⟩
  | page offset size => exact compiled _ ⟨rfl, rfl, rfl, rfl, rfl, rfl⟩
  | count => exact aggregateStatement_eq aligned typed _
  | aggregate function column =>
      simp only [statementOf, Draft.piecesFor]
      cases builder.profile.column column with
      | error error => rfl
      | ok rendered => exact aggregateStatement_eq aligned typed _
  | presence =>
      simp only [statementOf, Draft.piecesFor, requireSelect_eq typed]
      cases builder.clauses.draft.requireSelect "exists" with
      | error error => rfl
      | ok _ => exact compiled _ ⟨rfl, rfl, rfl, rfl, rfl, rfl⟩
  | column name =>
      simp only [statementOf, Draft.piecesFor, requireSelect_eq typed]
      cases builder.clauses.draft.requireSelect "pluck" with
      | error error => rfl
      | ok _ =>
          cases builder.profile.column name with
          | error error => rfl
          | ok rendered => exact compiled _ ⟨rfl, rfl, rfl, rfl, rfl, rfl⟩
  | pair value key =>
      simp only [statementOf, Draft.piecesFor, requireSelect_eq typed]
      cases builder.clauses.draft.requireSelect "pluck_key_value" with
      | error error => rfl
      | ok _ =>
          cases builder.profile.column value with
          | error error => rfl
          | ok first =>
              cases builder.profile.column key with
              | error error => rfl
              | ok second => exact compiled _ ⟨rfl, rfl, rfl, rfl, rfl, rfl⟩
  | cursor column after limit =>
      simp only [statementOf, Draft.piecesFor]
      cases builder.profile.column column with
      | error error => rfl
      | ok rendered =>
          have sent := cursorClauses_compile aligned typed rendered after limit
          rw [draft_cursorClauses aligned] at sent
          exact sent

end Builder

def Call.isRaw : Call → Bool
  | .raw _ _ => true
  | _ => false

namespace Draft

private theorem raw_of_map {Item : Type} {draft next : Draft} {source : Except QueryError Item}
    {change : Item → Draft} (done : source.map change = .ok next)
    (kept : ∀ item, (change item).raw = draft.raw) : next.raw = draft.raw := by
  obtain ⟨item, _, same⟩ := exists_of_map_ok done
  rw [← same]
  exact kept item

theorem addGroup_raw (draft : Draft) (combinator : Combinator) (inner : Draft) :
    (draft.addGroup combinator inner).raw = draft.raw := by
  unfold addGroup
  split
  · rfl
  · rfl

theorem apply_raw {draft next : Draft} {profile : Profile} {call : Call}
    (typed : call.isRaw = false) (done : draft.apply profile call = .ok next) :
    next.raw = draft.raw := by
  cases call with
  | raw sql values => cases typed
  | insert records =>
      obtain ⟨insertion, same, _⟩ := insertMany_ok done
      rw [same]
  | update changes =>
      obtain ⟨assignment, same, _⟩ := updateWith_ok done
      rw [same]
  | group combinator calls => exact raw_of_map done (addGroup_raw draft combinator)
  | distinct =>
      cases done
      rfl
  | noCache =>
      cases done
      rfl
  | encrypt fields =>
      cases done
      rfl
  | _ => exact raw_of_map done (fun _ => rfl)

theorem applyAll_raw {profile : Profile} {calls : List Call}
    (typed : ∀ call ∈ calls, call.isRaw = false) {draft next : Draft}
    (done : draft.applyAll profile calls = .ok next) : next.raw = draft.raw :=
  applyAll_keeps Draft.raw (fun call member _ _ => apply_raw (typed call member)) done

end Draft

/-! ### Every statement binds what its slots were given -/

/-- The pending writes and the columns on account of which a request may be refused. -/
def Request.Accepted (builder : Builder) : Request → Prop
  | .whole => True
  | .limited _ => True
  | .page _ _ => True
  | .count => builder.clauses.isWrite = false
  | .aggregate _ name => builder.clauses.isWrite = false ∧ (builder.profile.column name).isOk
  | .presence => builder.clauses.isWrite = false
  | .column name => builder.clauses.isWrite = false ∧ (builder.profile.column name).isOk
  | .pair value key =>
      builder.clauses.isWrite = false ∧ (builder.profile.column value).isOk ∧
        (builder.profile.column key).isOk
  | .cursor name _ _ => (builder.profile.column name).isOk

theorem Builder.piecesFor_ok {builder : Builder} (typed : builder.clauses.raw = none)
    {request : Request} (accepted : request.Accepted builder) :
    ∃ pieces, builder.clauses.draft.piecesFor builder.profile request = .ok pieces := by
  have reading : builder.clauses.isWrite = false →
      ∀ terminal, builder.clauses.draft.requireSelect terminal = .ok () := by
    intro idle terminal
    unfold Draft.requireSelect
    rw [Clauses.draft_isWrite, idle, Clauses.draft_raw typed]
    rfl
  have aggregated : builder.clauses.isWrite = false → ∀ expression, ∃ pieces,
      builder.clauses.draft.aggregatePieces builder.profile expression = .ok pieces := by
    intro idle expression
    unfold Draft.aggregatePieces
    rw [reading idle]
    change ∃ pieces, (if builder.clauses.draft.frame.groups.isEmpty &&
      !builder.clauses.draft.frame.distinct then _ else _) = Except.ok pieces
    split
    · exact ⟨_, rfl⟩
    · exact ⟨_, rfl⟩
  cases request with
  | whole => exact ⟨_, rfl⟩
  | limited count => exact ⟨_, rfl⟩
  | page offset size => exact ⟨_, rfl⟩
  | count => exact aggregated accepted _
  | aggregate function column =>
      obtain ⟨idle, named⟩ := accepted
      obtain ⟨rendered, found⟩ := ok_of_isOk named
      obtain ⟨pieces, made⟩ := aggregated idle (function.text ++ "(" ++ rendered ++ ")")
      exact ⟨pieces, by rw [Draft.piecesFor, found]; exact made⟩
  | presence => exact ⟨_, by rw [Draft.piecesFor, reading accepted]; rfl⟩
  | column name =>
      obtain ⟨idle, named⟩ := accepted
      obtain ⟨rendered, found⟩ := ok_of_isOk named
      exact ⟨_, by rw [Draft.piecesFor, reading idle, found]; rfl⟩
  | pair value key =>
      obtain ⟨idle, named, keyed⟩ := accepted
      obtain ⟨first, found⟩ := ok_of_isOk named
      obtain ⟨second, other⟩ := ok_of_isOk keyed
      exact ⟨_, by rw [Draft.piecesFor, reading idle, found, other]; rfl⟩
  | cursor column after limit =>
      obtain ⟨rendered, found⟩ := ok_of_isOk accepted
      exact ⟨_, by rw [Draft.piecesFor, found]; rfl⟩

theorem Builder.apply_draft {builder next : Builder} (aligned : builder.clauses.Aligned)
    {call : Call} (done : builder.apply call = .ok next) :
    next.profile = builder.profile ∧ next.clauses.Aligned ∧
      builder.clauses.draft.apply builder.profile call = .ok next.clauses.draft := by
  have follows := Builder.apply_follows builder aligned call
  have meant := follows.same
  rw [done] at meant
  exact ⟨(Builder.apply_kind done).1, follows.aligned _ (by rw [done]; rfl), meant.symm⟩

theorem Builder.apply_refused {builder : Builder} (aligned : builder.clauses.Aligned) {call : Call}
    {error : QueryError}
    (meant : builder.clauses.draft.apply builder.profile call = .error error) :
    builder.apply call = .error error := by
  have same := (Builder.apply_follows builder aligned call).same
  rw [meant] at same
  cases done : builder.apply call with
  | error own =>
      rw [done] at same
      cases same
      rfl
  | ok next =>
      rw [done] at same
      cases same

theorem Builder.apply_accepted {builder : Builder} (aligned : builder.clauses.Aligned) {call : Call}
    {draft : Draft} (meant : builder.clauses.draft.apply builder.profile call = .ok draft) :
    ∃ next, builder.apply call = .ok next ∧ next.profile = builder.profile ∧
      next.clauses.Aligned ∧ next.clauses.draft = draft := by
  have same := (Builder.apply_follows builder aligned call).same
  rw [meant] at same
  obtain ⟨clauses, held, _⟩ := exists_of_map_ok same
  obtain ⟨next, done, _⟩ := exists_of_map_ok held
  obtain ⟨kind, stays, own⟩ := Builder.apply_draft aligned done
  exact ⟨next, done, kind, stays, Except.ok.inj (own.symm.trans meant)⟩

theorem Builder.applyAll_draft {builder reached : Builder} (aligned : builder.clauses.Aligned)
    {calls : List Call} (done : builder.applyAll calls = .ok reached) :
    reached.profile = builder.profile ∧ reached.clauses.Aligned ∧
      builder.clauses.draft.applyAll builder.profile calls = .ok reached.clauses.draft := by
  have follows := Builder.applyAll_follows builder aligned calls
  have meant := follows.same
  rw [done] at meant
  exact ⟨(Builder.applyAll_kind done).1, follows.aligned _ (by rw [done]; rfl), meant.symm⟩

/-- A builder stands for the draft of its calls. -/
theorem Builder.reached_draft {profile : Profile} {cacheable : Bool} {calls : List Call}
    {builder : Builder}
    (reached : ({ profile := profile, cacheable := cacheable } : Builder).applyAll calls =
      .ok builder) :
    builder.profile = profile ∧ builder.clauses.Aligned ∧
      Draft.applyAll profile {} calls = .ok builder.clauses.draft :=
  Builder.applyAll_draft Clauses.aligned_empty reached

theorem Clauses.raw_of_draft {profile : Profile} {clauses : Clauses} {calls : List Call}
    (typed : ∀ call ∈ calls, call.isRaw = false)
    (meant : Draft.applyAll profile {} calls = .ok clauses.draft) : clauses.raw = none :=
  Option.map_eq_none_iff.mp (Draft.applyAll_raw typed meant)

/-- The program of calls means a draft, in which each value stands in the place for which it was
given; its builder's spans all fit, and whatever is sent for the builder is the draft's, with the
slots numbered from the left and each value bound at the number of the slot in which the draft has
it. -/
theorem bindings_match_slots (profile : Profile) (cacheable : Bool) (calls : List Call)
    (builder : Builder) (typed : ∀ call ∈ calls, call.isRaw = false)
    (reached : ({ profile := profile, cacheable := cacheable } : Builder).applyAll calls =
      .ok builder) :
    ∃ draft : Draft, Draft.applyAll profile {} calls = .ok draft ∧
      builder.clauses.Aligned ∧
      (∃ statement, builder.statement = .ok statement ∧
        Piece.Numbered profile (draft.pieces profile) statement) ∧
      ∀ request : Request, request.Accepted builder →
        ∃ pieces statement, draft.piecesFor profile request = .ok pieces ∧
          builder.statementOf request = .ok statement ∧
          Piece.Numbered profile pieces statement := by
  obtain ⟨kind, aligned, meant⟩ := Builder.reached_draft reached
  have unset := Clauses.raw_of_draft typed meant
  have sent : ∀ request : Request, request.Accepted builder →
      ∃ pieces statement, builder.clauses.draft.piecesFor profile request = .ok pieces ∧
        builder.statementOf request = .ok statement ∧
        Piece.Numbered profile pieces statement := by
    intro request accepted
    obtain ⟨pieces, made⟩ := Builder.piecesFor_ok unset accepted
    have compiled := Builder.statementOf_eq aligned unset request
    rw [made] at compiled
    rw [kind] at made compiled
    exact ⟨pieces, _, made, compiled, Piece.statement_numbered profile pieces⟩
  refine ⟨builder.clauses.draft, meant, aligned, ?_, sent⟩
  obtain ⟨pieces, statement, made, compiled, numbered⟩ := sent .whole trivial
  cases made
  exact ⟨statement, compiled, numbered⟩

/-- Values that are given in another order than they are written. -/
def groupedUpdate : List Call :=
  [.readFrom "users", .having "total" ">" (.int 7), .compare .and "age" ">=" (.int 18),
    .group .or [.membership .and false "role" [.string "admin", .string "owner"],
      .group .or [.between .and true "score" (.int 1) (.int 9)]],
    .whereDate "born" "<" (.written "2001-02-03 04:05"),
    .whereBetweenDates "seen" (.timed ⟨2024, 1, 31⟩ 86399 0) (.instant 1709251200 (-3600)),
    .update [("name", .string "Ada"), ("seen", .null)]]

theorem grouped_update_matches_slots :
    ∃ builder : Builder,
      ({ profile := Dialect.postgresql.profile, cacheable := true } : Builder).applyAll
        groupedUpdate = .ok builder ∧
      ∃ draft statement, Draft.applyAll Dialect.postgresql.profile {} groupedUpdate = .ok draft ∧
        builder.statement = .ok statement ∧
        Piece.Numbered Dialect.postgresql.profile (draft.pieces Dialect.postgresql.profile)
          statement ∧
        statement.bindings.map (fun value => value.toJson.text) =
          ["\"Ada\"", "null", "18", "\"admin\"", "\"owner\"", "1", "9", "\"2001-02-03\"",
            "\"2024-01-31\"", "\"2024-02-29\""] := by
  have accepted : (({ profile := Dialect.postgresql.profile, cacheable := true } :
      Builder).applyAll groupedUpdate).isOk := by
    decide +kernel
  have bound : ((Draft.applyAll Dialect.postgresql.profile {} groupedUpdate).toOption.map
      fun draft => (Piece.values (draft.pieces Dialect.postgresql.profile)).map
        fun value => value.toJson.text) =
        some ["\"Ada\"", "null", "18", "\"admin\"", "\"owner\"", "1", "9", "\"2001-02-03\"",
          "\"2024-01-31\"", "\"2024-02-29\""] := by
    decide +kernel
  obtain ⟨builder, reached⟩ := ok_of_isOk accepted
  obtain ⟨draft, meant, _, ⟨statement, compiled, numbered⟩, _⟩ :=
    bindings_match_slots _ _ _ builder (by decide) reached
  refine ⟨builder, reached, draft, statement, meant, compiled, numbered, ?_⟩
  rw [meant] at bound
  rw [numbered.eq_statement]
  exact Option.some.inj bound

end BoundQuery
