import BoundQuery.Proofs.Redaction

/-!
What a builder sends does not depend on its values: not the text, not the number of bindings, and
not whether a call or a request is refused. This holds with a raw statement as well, which stands
for all the statements that a builder has.
-/

set_option autoImplicit false

namespace BoundQuery

namespace Draft

variable {draft other : Draft} (profile : Profile)

theorem redacted_conditions (keyword : String) (conditions : List Condition) :
    (conditionPieces keyword conditions).map Piece.redacted =
      conditionPieces keyword (conditions.map Condition.redacted) := by
  unfold conditionPieces
  rw [List.isEmpty_map]
  split
  · rfl
  · rw [List.map_cons, redacted_chain]
    rfl

theorem redacted_insertion (insertion : Insertion) :
    (insertionPieces insertion).map Piece.redacted = insertionPieces insertion.redacted := by
  have rows : (insertion.rows.map (fun row => Piece.sql "(" :: Piece.listed row ++ [.sql ")"])).map
      (List.map Piece.redacted) = (insertion.rows.map (List.map Value.redacted)).map
        (fun row => Piece.sql "(" :: Piece.listed row ++ [.sql ")"]) := by
    rw [List.map_map, List.map_map]
    refine List.map_congr_left fun row _ => ?_
    simp [Piece.redacted, Piece.listed_redacted]
  unfold insertionPieces
  rw [List.map_cons, Piece.separated_redacted, rows]
  rfl

theorem redacted_assignment (assignment : Assignment) :
    (assignmentPieces assignment).map Piece.redacted = assignmentPieces assignment.redacted := by
  have cells : (assignment.cells.map (fun cell => [Piece.sql (cell.1 ++ " = "), .slot cell.2])).map
      (List.map Piece.redacted) = assignment.redacted.cells.map
        (fun cell => [Piece.sql (cell.1 ++ " = "), .slot cell.2]) := by
    simp only [Assignment.redacted, Record.redacted, List.map_map]
    rfl
  unfold assignmentPieces
  rw [List.map_cons, Piece.separated_redacted, cells]
  rfl

theorem redacted_pieces (draft : Draft) :
    (draft.pieces profile).map Piece.redacted = draft.redacted.pieces profile := by
  unfold pieces
  cases inserting : draft.insertion with
  | some insertion =>
      simp only [redacted, inserting, Option.map_some]
      exact redacted_insertion insertion
  | none =>
      cases updating : draft.assignment with
      | some assignment =>
          simp only [redacted, inserting, updating, Option.map_some, Option.map_none,
            List.map_append, redacted_conditions, redacted_assignment]
      | none =>
          cases deleting : draft.frame.delete with
          | some delete =>
              simp only [redacted, inserting, updating, deleting, Option.map_none,
                List.map_cons, redacted_conditions, Piece.redacted]
          | none =>
              simp only [redacted, inserting, updating, deleting, Option.map_none,
                List.map_cons, List.map_append, redacted_conditions, tailPieces, headText,
                List.map_nil, Piece.redacted]

/-! ### Requests -/

/-- The statement of a request. A raw statement stands for any other. -/
def statementFor (profile : Profile) (draft : Draft) (request : Request) :
    Except QueryError Statement :=
  (draft.piecesFor profile request).map
    (fun pieces => draft.raw.getD (Piece.statement profile pieces))

theorem same_pieces (same : draft.redacted = other.redacted) :
    Piece.SameRedacted (.ok (draft.pieces profile)) (.ok (other.pieces profile)) := by
  refine congrArg Except.ok ?_
  rw [redacted_pieces, redacted_pieces, same]

theorem same_reframed (same : draft.redacted = other.redacted) (change : Clauses → Clauses) :
    (draft.reframe change).redacted = (other.reframe change).redacted :=
  congrArg (fun draft : Draft => draft.reframe change) same

theorem same_requireSelect (same : draft.redacted = other.redacted) (terminal : String) :
    draft.requireSelect terminal = other.requireSelect terminal := by
  have apart : ∀ draft : Draft,
      draft.redacted.requireSelect terminal = draft.requireSelect terminal := by
    intro draft
    have raw : draft.redacted.raw.isSome = draft.raw.isSome := Option.isSome_map
    have writing : draft.redacted.isWrite = draft.isWrite := by
      simp only [isWrite, redacted, Option.isSome_map]
    unfold requireSelect
    rw [raw, writing]
  rw [← apart draft, same, apart]

theorem foldWheres_raw (draft : Draft) : draft.foldWheres.raw = draft.raw := by
  unfold foldWheres
  split
  · rfl
  · rfl

theorem behindCursor_raw (draft : Draft) (column : String) (after : Option Value) :
    (draft.behindCursor column after).raw = draft.raw := by
  cases after with
  | none => rfl
  | some value => exact draft.foldWheres_raw

theorem same_behindCursor (same : draft.redacted = other.redacted) (column : String)
    (after : Option Value) :
    (draft.behindCursor column (after.map Value.redacted)).redacted =
      (other.behindCursor column after).redacted := by
  have folded : ∀ draft : Draft, draft.foldWheres.redacted = draft.redacted.foldWheres := by
    intro draft
    have divided : (draft.redacted.wheres.drop 1).any
        (fun condition => condition.combinator == .or) =
          (draft.wheres.drop 1).any (fun condition => condition.combinator == .or) := by
      simp only [redacted, ← List.map_drop, List.any_map]
      rfl
    unfold foldWheres
    rw [divided]
    split
    · simp [redacted, Condition.redacted, Piece.enclosed, Piece.redacted, redacted_chain]
    · rfl
  cases after with
  | none => exact same
  | some value =>
      simp only [behindCursor, Option.map_some, redacted_addWhere, folded, same,
        List.map_cons, List.map_nil, Piece.redacted, Value.redacted_redacted]

theorem same_aggregate (same : draft.redacted = other.redacted) (expression : String) :
    Piece.SameRedacted (draft.aggregatePieces profile expression)
      (other.aggregatePieces profile expression) := by
  unfold aggregatePieces
  rw [same_requireSelect same, frame_of_redacted same]
  refine Piece.SameRedacted.bind _ fun _ => ?_
  split
  · exact same_pieces profile (same_reframed same _)
  · refine congrArg Except.ok ?_
    have inner := Except.ok.inj (same_pieces profile (same_reframed same
      (fun frame => { frame with orders := [], limit := none, offset := none })))
    simp only [List.map_append, List.map_cons, inner]

theorem same_piecesFor (same : draft.redacted = other.redacted) (request : Request) :
    Piece.SameRedacted (draft.piecesFor profile request.redacted)
      (other.piecesFor profile request) := by
  cases request with
  | whole => exact same_pieces profile same
  | limited count => exact same_pieces profile (same_reframed same _)
  | page offset size => exact same_pieces profile (same_reframed same _)
  | count => exact same_aggregate profile same _
  | aggregate function column =>
      exact Piece.SameRedacted.bind _ fun rendered => same_aggregate profile same _
  | presence =>
      simp only [Request.redacted, piecesFor, same_requireSelect same]
      exact Piece.SameRedacted.bind _ fun _ => same_pieces profile (same_reframed same _)
  | column name =>
      simp only [Request.redacted, piecesFor, same_requireSelect same]
      refine Piece.SameRedacted.bind _ fun _ => ?_
      exact Piece.SameRedacted.bind _ fun _ => same_pieces profile (same_reframed same _)
  | pair value key =>
      simp only [Request.redacted, piecesFor, same_requireSelect same]
      refine Piece.SameRedacted.bind _ fun _ => ?_
      refine Piece.SameRedacted.bind _ fun _ => ?_
      exact Piece.SameRedacted.bind _ fun _ => same_pieces profile (same_reframed same _)
  | cursor column after limit =>
      refine Piece.SameRedacted.bind _ fun rendered => ?_
      exact same_pieces profile (same_reframed (same_behindCursor same rendered after) _)

theorem same_statementFor (same : draft.redacted = other.redacted) (request : Request) :
    (draft.statementFor profile request.redacted).map Statement.redacted =
      (other.statementFor profile request).map Statement.redacted := by
  have apart : ∀ (draft : Draft) (request : Request),
      (draft.statementFor profile request).map Statement.redacted =
        ((draft.piecesFor profile request).map (List.map Piece.redacted)).map
          (fun pieces => draft.redacted.raw.getD (Piece.statement profile pieces)) := by
    intro draft request
    unfold statementFor
    cases draft.piecesFor profile request with
    | error error => rfl
    | ok pieces =>
        cases raw : draft.raw with
        | none =>
            simp only [Except.map, redacted, raw, Option.map_none, Option.getD_none,
              Piece.statement_redacted]
        | some statement => simp only [Except.map, redacted, raw, Option.map_some, Option.getD_some]
  have pieces := same_piecesFor profile same request
  unfold Piece.SameRedacted at pieces
  rw [apart, apart, pieces, same]

end Draft

namespace Builder

variable {builder : Builder}

theorem cursorClauses_aligned (aligned : builder.clauses.Aligned) (column : String)
    (after : Option Value) (limit : Nat) :
    (builder.cursorClauses column after limit).Aligned := by
  cases after with
  | none =>
      have same : builder.clauses.SameValues (builder.cursorClauses column none limit) :=
        ⟨rfl, rfl, rfl, rfl, rfl, rfl⟩
      exact same.aligned aligned
  | some value =>
      let narrowed :=
        builder.clauses.groupWheres.addWhere .and [.sql (column ++ " > "), .slot] [value]
      have narrow : narrowed.Aligned :=
        Clauses.addWhere_aligned (Clauses.groupWheres_aligned aligned) _ _ _ rfl
      have same : narrowed.SameValues (builder.cursorClauses column (some value) limit) :=
        ⟨rfl, rfl, rfl, rfl, rfl, rfl⟩
      exact same.aligned narrow

theorem compile_raw {clauses : Clauses} (aligned : clauses.Aligned) {raw : Statement}
    (pending : clauses.draft.raw = some raw) (profile : Profile) :
    clauses.compile profile = .ok raw := by
  rw [Clauses.compile_eq aligned]
  unfold Draft.statement
  rw [pending]

theorem requireSelect_raw {raw : Statement} (pending : builder.clauses.draft.raw = some raw)
    (terminal : String) :
    ∃ error, Engine.requireSelect builder terminal = .error error ∧
      builder.clauses.draft.requireSelect terminal = .error error := by
  have typed : builder.clauses.raw.isSome = true := by
    have both : builder.clauses.draft.raw.isSome = builder.clauses.raw.isSome :=
      Option.isSome_map
    rw [← both, pending]
    rfl
  unfold Engine.requireSelect Draft.requireSelect
  rw [typed, pending]
  exact ⟨_, rfl, rfl⟩

theorem aggregateStatement_raw {raw : Statement}
    (pending : builder.clauses.draft.raw = some raw) (expression : String) :
    builder.aggregateStatement expression =
      (builder.clauses.draft.aggregatePieces builder.profile expression).map
        (fun pieces => builder.clauses.draft.raw.getD
          (Piece.statement builder.profile pieces)) := by
  obtain ⟨error, asked, drafted⟩ := requireSelect_raw pending "aggregate"
  unfold aggregateStatement Draft.aggregatePieces
  rw [asked, drafted]
  rfl

/-- A pending raw statement is what every accepted request sends. -/
theorem statementOf_raw (aligned : builder.clauses.Aligned) {raw : Statement}
    (pending : builder.clauses.draft.raw = some raw) (request : Request) :
    builder.statementOf request = builder.clauses.draft.statementFor builder.profile request := by
  have kept : ∀ changed : Clauses, builder.clauses.SameValues changed →
      changed.compile builder.profile = .ok raw := by
    intro changed same
    exact compile_raw (same.aligned aligned) (by rw [same.draft, pending]) builder.profile
  unfold Draft.statementFor
  cases request with
  | whole =>
      rw [pending]
      exact kept _ ⟨rfl, rfl, rfl, rfl, rfl, rfl⟩
  | limited count =>
      rw [pending]
      exact kept _ ⟨rfl, rfl, rfl, rfl, rfl, rfl⟩
  | page offset size =>
      rw [pending]
      exact kept _ ⟨rfl, rfl, rfl, rfl, rfl, rfl⟩
  | count => exact aggregateStatement_raw pending _
  | aggregate function column =>
      simp only [statementOf, Draft.piecesFor]
      cases builder.profile.column column with
      | error error => rfl
      | ok rendered => exact aggregateStatement_raw pending _
  | presence =>
      obtain ⟨error, asked, drafted⟩ := requireSelect_raw pending "exists"
      simp only [statementOf, Draft.piecesFor, asked, drafted]
      rfl
  | column name =>
      obtain ⟨error, asked, drafted⟩ := requireSelect_raw pending "pluck"
      simp only [statementOf, Draft.piecesFor, asked, drafted]
      rfl
  | pair value key =>
      obtain ⟨error, asked, drafted⟩ := requireSelect_raw pending "pluck_key_value"
      simp only [statementOf, Draft.piecesFor, asked, drafted]
      rfl
  | cursor column after limit =>
      simp only [statementOf, Draft.piecesFor]
      cases builder.profile.column column with
      | error error => rfl
      | ok rendered =>
          have same : (builder.cursorClauses rendered after limit).draft.raw = some raw := by
            rw [draft_cursorClauses aligned]
            exact (builder.clauses.draft.behindCursor_raw rendered after).trans pending
          have sent := compile_raw (cursorClauses_aligned aligned rendered after limit) same
            builder.profile
          rw [pending]
          exact sent

/-- Each request sends what the draft has for it, with or without a raw statement. -/
theorem statementOf_eq_statementFor (aligned : builder.clauses.Aligned) (request : Request) :
    builder.statementOf request = builder.clauses.draft.statementFor builder.profile request := by
  cases pending : builder.clauses.draft.raw with
  | some raw => exact statementOf_raw aligned pending request
  | none =>
      have typed : builder.clauses.raw = none := Option.map_eq_none_iff.mp pending
      rw [statementOf_eq aligned typed]
      unfold Draft.statementFor
      rw [pending]
      rfl

/-! ### Two programs -/

/-- Makes the calls one after another and passes over those that are refused. What each of them was
refused for, in their order, and the builder at the end. -/
def attempt (builder : Builder) : List Call → List (Option QueryError) × Builder
  | [] => ([], builder)
  | call :: rest =>
      match builder.apply call with
      | .ok next => (none :: (next.attempt rest).1, (next.attempt rest).2)
      | .error error => (some error :: (builder.attempt rest).1, (builder.attempt rest).2)

theorem attempt_of_applyAll {calls : List Call} :
    ∀ {builder reached : Builder}, builder.applyAll calls = .ok reached →
      builder.attempt calls = (calls.map (fun _ => none), reached) := by
  induction calls with
  | nil =>
      intro builder reached done
      cases done
      rfl
  | cons call rest ih =>
      intro builder reached done
      obtain ⟨next, first, further⟩ := applyAll_cons_ok done
      unfold attempt
      simp only [first, ih further, List.map_cons]

/-- Builders of one kind that stand for the same draft once it is redacted. -/
structure Twins (left right : Builder) : Prop where
  profile : left.profile = right.profile
  leftAligned : left.clauses.Aligned
  rightAligned : right.clauses.Aligned
  draft : left.clauses.draft.redacted = right.clauses.draft.redacted

variable {left right : Builder}

theorem Twins.apply (twins : Twins left right) {call other : Call}
    (same : call.redacted = other.redacted) :
    (∃ error, left.apply call = .error error ∧ right.apply other = .error error) ∨
      ∃ next reached, left.apply call = .ok next ∧ right.apply other = .ok reached ∧
        Twins next reached := by
  have mirrored : Draft.Mirrors (left.clauses.draft.apply left.profile call)
      (right.clauses.draft.apply right.profile other) := by
    have own := Draft.apply_mirrors left.profile (rfl :
      left.clauses.draft.redacted = left.clauses.draft.redacted) call
    have across := Draft.apply_mirrors left.profile twins.draft other
    rw [same] at own
    rw [← twins.profile]
    exact own.symm.trans across
  rcases outcomes_of_map_eq mirrored with ⟨error, mine, yours⟩ | ⟨_, _, mine, yours, alike⟩
  · exact .inl ⟨error, apply_refused twins.leftAligned mine,
      apply_refused twins.rightAligned yours⟩
  · obtain ⟨next, made, kind, aligned, rfl⟩ := apply_accepted twins.leftAligned mine
    obtain ⟨reached, done, otherKind, alsoAligned, rfl⟩ := apply_accepted twins.rightAligned yours
    exact .inr ⟨next, reached, made, done,
      kind.trans (twins.profile.trans otherKind.symm), aligned, alsoAligned, alike⟩

theorem Twins.attempt {calls : List Call} :
    ∀ {others : List Call} {left right : Builder}, Twins left right →
      Call.redactAll calls = Call.redactAll others →
        (left.attempt calls).1 = (right.attempt others).1 ∧
          Twins (left.attempt calls).2 (right.attempt others).2 := by
  induction calls with
  | nil =>
      intro others left right twins same
      cases others with
      | nil => exact ⟨rfl, twins⟩
      | cons other rest => cases same
  | cons call rest ih =>
      intro others left right twins same
      cases others with
      | nil => cases same
      | cons other more =>
          obtain ⟨first, further⟩ := List.cons.inj same
          unfold Builder.attempt
          rcases twins.apply first with
            ⟨error, refused, alike⟩ | ⟨next, after, made, alike, stay⟩
          · obtain ⟨refusals, reached⟩ := ih twins further
            rw [refused, alike]
            exact ⟨congrArg (some error :: ·) refusals, reached⟩
          · obtain ⟨refusals, reached⟩ := ih stay further
            rw [made, alike]
            exact ⟨congrArg (none :: ·) refusals, reached⟩

/-- Twins send the same text for a request, and as many bindings. -/
theorem Twins.statementOf (twins : Twins left right) {request other : Request}
    (same : request.redacted = other.redacted) :
    (left.statementOf request).map Statement.redacted =
      (right.statementOf other).map Statement.redacted := by
  rw [statementOf_eq_statementFor twins.leftAligned, statementOf_eq_statementFor twins.rightAligned,
    ← twins.profile, ← Draft.same_statementFor left.profile rfl request, same]
  exact Draft.same_statementFor left.profile twins.draft other

end Builder

/-- What can be seen of a statement without its values. -/
def Statement.outline (statement : Statement) : String × Nat :=
  (statement.sql, statement.bindings.length)

theorem Statement.outline_redacted (statement : Statement) :
    statement.redacted.outline = statement.outline := by
  unfold Statement.redacted Statement.outline
  rw [List.length_map]

/-- Two programs that are the same once redacted have the same calls refused, and the builders that
they lead to answer every request with the same SQL text and equally many bindings, or refuse it
alike. -/
theorem sql_is_blind_to_values (profile : Profile) (cacheable : Bool) (calls others : List Call)
    (same : Call.redactAll calls = Call.redactAll others) :
    let start : Builder := { profile := profile, cacheable := cacheable }
    (start.attempt calls).1 = (start.attempt others).1 ∧
      ∀ request other : Request, request.redacted = other.redacted →
        ((start.attempt calls).2.statementOf request).map Statement.outline =
          ((start.attempt others).2.statementOf other).map Statement.outline := by
  intro start
  have twins : Builder.Twins start start :=
    ⟨rfl, Clauses.aligned_empty, Clauses.aligned_empty, rfl⟩
  obtain ⟨refusals, reached⟩ := twins.attempt same
  refine ⟨refusals, ?_⟩
  intro request other alike
  have outlined : ∀ result : Except QueryError Statement,
      (result.map Statement.redacted).map Statement.outline = result.map Statement.outline := by
    intro result
    cases result with
    | error error => rfl
    | ok statement => exact congrArg Except.ok statement.outline_redacted
  rw [← outlined, reached.statementOf alike, outlined]

def rebaptism (name note : String) (ids : List Value) (year : Int) (replacement : Value) :
    List Call :=
  [.readFrom "people", .compare .and "name" "=" (.string name),
    .group .or [.membership .and false "id" ids, .whereYear "joined" ">=" year],
    .compare .and "note" "<>" (.string note), .update [("name", replacement), ("left_at", .null)]]

theorem rebaptism_is_blind_to_values :
    let start : Builder := { profile := Dialect.mssql.profile }
    let friendly := rebaptism "Ada" "" [.int 1, .int 2] 1999 (.string "Grace")
    let hostile := rebaptism "x'; DROP TABLE people; --" "*/ ? ?? $1 @P1 /*"
      [.bool false, .string "]"] (-5) (.json (.array [.null]))
    Call.redactAll friendly = Call.redactAll hostile ∧
      (start.attempt friendly).1 = (start.attempt hostile).1 ∧
      ((start.attempt friendly).2.statementOf .whole).map Statement.outline =
        ((start.attempt hostile).2.statementOf .whole).map Statement.outline := by
  intro start friendly hostile
  have same : Call.redactAll friendly = Call.redactAll hostile := rfl
  obtain ⟨refusals, sent⟩ :=
    sql_is_blind_to_values Dialect.mssql.profile false friendly hostile same
  exact ⟨same, refusals, sent .whole .whole rfl⟩

end BoundQuery
