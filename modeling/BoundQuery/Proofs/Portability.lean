import BoundQuery.Proofs.Correspondence
import BoundQuery.Proofs.ValueBlindness

/-!
A program of calls means the same under any two profiles. The profiles spell the texts and nothing
else: the same calls are refused for the same reasons, and every statement that is made afterwards
has the same values in the same clauses.
-/

set_option autoImplicit false

namespace BoundQuery

namespace Piece

/-- Texts and slots in the same places, with the same values in the slots. -/
def SameSlots (left right : List Piece) : Prop :=
  left.map value? = right.map value?

theorem values_eq (pieces : List Piece) : values pieces = (pieces.map value?).filterMap id := by
  rw [List.filterMap_map]
  rfl

theorem values_text (text : String) : values [.sql text] = [] :=
  rfl

theorem SameSlots.values {left right : List Piece} (same : SameSlots left right) :
    Piece.values left = Piece.values right := by
  rw [values_eq, values_eq, same]

theorem SameSlots.append {left right before behind : List Piece} (first : SameSlots left right)
    (second : SameSlots before behind) : SameSlots (left ++ before) (right ++ behind) := by
  unfold SameSlots at *
  rw [List.map_append, List.map_append, first, second]

theorem SameSlots.cons_sql {left right : List Piece} (first second : String)
    (same : SameSlots left right) : SameSlots (.sql first :: left) (.sql second :: right) :=
  congrArg (none :: ·) same

theorem SameSlots.enclosed {left right : List Piece} (same : SameSlots left right) :
    SameSlots (enclosed left) (enclosed right) :=
  (same.cons_sql "(" "(").append rfl

theorem sameSlots_chain {firsts seconds : List Condition}
    (same : List.Forall₂ (Condition.Related SameSlots) firsts seconds) :
    SameSlots (chain firsts) (chain seconds) := by
  cases same with
  | nil => rfl
  | cons head tail =>
      refine head.pieces.append ?_
      induction tail with
      | nil => rfl
      | cons next _ ih =>
          rw [List.flatMap_cons, List.flatMap_cons]
          exact (next.pieces.cons_sql _ _).append ih

theorem sameSlots_separated {firsts seconds : List (List Piece)}
    (same : List.Forall₂ SameSlots firsts seconds) :
    SameSlots ((firsts.intersperse [.sql ", "]).flatten)
      ((seconds.intersperse [.sql ", "]).flatten) := by
  induction same with
  | nil => rfl
  | cons head tail ih =>
      cases tail with
      | nil => simpa using head
      | cons next more =>
          rw [separated_cons, separated_cons]
          exact head.append (ih.cons_sql _ _)

end Piece

section Profiles

variable (left right : Profile)

theorem column_ported (name : String) :
    Agree (fun _ _ => True) (left.column name) (right.column name) :=
  Agree.after (Identifier.readColumn name) fun _ _ => .accepted trivial

theorem aliasName_ported (name : String) :
    Agree (fun _ _ => True) (left.aliasName name) (right.aliasName name) := by
  refine Agree.after (Identifier.readColumn name) fun identifier _ => ?_
  cases identifier with
  | expression text => exact .refused _
  | plain plain =>
      dsimp only
      split
      · exact .refused _
      · exact .accepted trivial

theorem comparison_ported (column operator : String) (value : Value) :
    Agree Piece.SameSlots (Piece.comparison left column operator value)
      (Piece.comparison right column operator value) := by
  refine Agree.after _ fun operation _ => (column_ported left right column).bind fun _ => ?_
  split
  · exact .accepted rfl
  · split
    · exact .accepted rfl
    · exact .accepted rfl

theorem membership_ported (negated : Bool) (column : String) (values : List Value) :
    Agree Piece.SameSlots (Piece.membership left negated column values)
      (Piece.membership right negated column values) := by
  refine (column_ported left right column).bind fun _ => ?_
  split
  · exact .accepted rfl
  · exact .accepted rfl

theorem Profile.ported : left.Corresponds right (fun _ => True) (fun _ _ => True)
    (fun _ _ => True) Piece.SameSlots where
  table {name} _ := Agree.after (Identifier.readTable name) fun _ _ => .accepted trivial
  column {name} _ := column_ported left right name
  aliasName {name} _ := aliasName_ported left right name
  compared _ _ _ := trivial
  named _ _ := trivial
  joined _ _ := trivial
  ordered _ _ := trivial
  comparison operator value _ := comparison_ported left right _ operator value
  membership negated values _ := membership_ported left right negated _ values
  between _ _ _ _ := (column_ported left right _).bind fun _ => .accepted rfl
  nullTest _ _ := (column_ported left right _).bind fun _ => .accepted rfl
  datePart _ _ _ _ := Agree.after _ fun _ _ =>
    (column_ported left right _).bind fun _ => .accepted rfl
  today _ := (column_ported left right _).bind fun _ => .accepted rfl
  daysAgo _ _ _ := (column_ported left right _).bind fun _ => .accepted rfl
  dateRange _ _ _ := Agree.after _ fun _ _ => Agree.after _ fun _ _ =>
    (column_ported left right _).bind fun _ => .accepted rfl
  having _ _ _ := Agree.after _ fun _ _ =>
    (column_ported left right _).bind fun _ => .accepted rfl
  rawCondition _ _ _ _ := rfl
  enclosed same := same.enclosed
  chain same := Piece.sameSlots_chain same

end Profiles

/-! ### The clauses of a statement -/

/-- The clauses of a statement. A query inside another one stands between an opening and a closing
text. -/
inductive ClauseName where
  | insertion
  | assignment
  | deletion
  | selection
  | filter
  | grouping
  | having
  | ordering
  | opening
  | closing
deriving DecidableEq

structure Portion where
  clause : ClauseName
  pieces : List Piece

def Portion.bound (portion : Portion) : ClauseName × List Value :=
  (portion.clause, Piece.values portion.pieces)

namespace Draft

def portions (profile : Profile) (draft : Draft) : List Portion :=
  match draft.insertion, draft.assignment, draft.frame.delete with
  | some insertion, _, _ => [⟨.insertion, insertionPieces insertion⟩]
  | none, some assignment, _ =>
      [⟨.assignment, assignmentPieces assignment⟩,
        ⟨.filter, conditionPieces "WHERE" draft.wheres⟩]
  | none, none, some delete =>
      [⟨.deletion, [.sql ("DELETE FROM " ++ delete.table)]⟩,
        ⟨.filter, conditionPieces "WHERE" draft.wheres⟩]
  | none, none, none =>
      [⟨.selection, [.sql draft.headText]⟩, ⟨.filter, conditionPieces "WHERE" draft.wheres⟩,
        ⟨.grouping, [.sql draft.frame.groupText]⟩,
        ⟨.having, conditionPieces "HAVING" draft.havings⟩,
        ⟨.ordering, [.sql (draft.frame.orderText ++ draft.frame.pagingText profile)]⟩]

/-- The clauses in their order are the whole statement. -/
theorem portions_pieces (profile : Profile) (draft : Draft) :
    (draft.portions profile).flatMap Portion.pieces = draft.pieces profile := by
  unfold portions pieces
  cases draft.insertion with
  | some insertion => simp
  | none =>
      cases draft.assignment with
      | some assignment => simp
      | none =>
          cases draft.frame.delete with
          | some delete => simp
          | none => simp [tailPieces]

def aggregatePortions (profile : Profile) (draft : Draft) (expression : String) :
    Except QueryError (List Portion) := do
  draft.requireSelect "aggregate"
  let projection := expression ++ " AS " ++ aggregateAlias
  if draft.frame.groups.isEmpty && !draft.frame.distinct then
    pure ((draft.reframe (fun frame => frame.forAggregate projection)).portions profile)
  else
    let inner := draft.reframe fun frame =>
      { frame with orders := [], limit := none, offset := none }
    pure (⟨.opening, [.sql ("SELECT " ++ projection ++ " FROM (")]⟩ :: inner.portions profile ++
      [⟨.closing, [.sql ") AS aggregate_table"]⟩])

def portionsFor (profile : Profile) (draft : Draft) : Request → Except QueryError (List Portion)
  | .whole => .ok (draft.portions profile)
  | .limited count =>
      .ok ((draft.reframe fun frame => { frame with limit := some count }).portions profile)
  | .page offset size =>
      .ok ((draft.reframe fun frame =>
        { frame with limit := some size, offset := some offset }).portions profile)
  | .count => draft.aggregatePortions profile "COUNT(*)"
  | .aggregate function column => do
      let rendered ← profile.column column
      draft.aggregatePortions profile (function.text ++ "(" ++ rendered ++ ")")
  | .presence => do
      draft.requireSelect "exists"
      pure ((draft.reframe fun frame =>
        { frame with columns := ["1 AS present"], orders := [], limit := some 1 }).portions profile)
  | .column name => do
      draft.requireSelect "pluck"
      let rendered ← profile.column name
      pure ((draft.reframe fun frame => { frame with columns := [rendered] }).portions profile)
  | .pair value key => do
      draft.requireSelect "pluck_key_value"
      let first ← profile.column value
      let second ← profile.column key
      pure ((draft.reframe fun frame => { frame with columns := [first, second] }).portions profile)
  | .cursor column after limit => do
      let rendered ← profile.column column
      pure (((draft.behindCursor rendered after).reframe fun frame =>
        { frame with
          orders := [⟨rendered, .ascending, false⟩]
          limit := some (limit + 1)
          offset := none }).portions profile)

theorem aggregatePortions_pieces (profile : Profile) (draft : Draft) (expression : String) :
    (draft.aggregatePortions profile expression).map (List.flatMap Portion.pieces) =
      draft.aggregatePieces profile expression := by
  unfold aggregatePortions aggregatePieces
  cases draft.requireSelect "aggregate" with
  | error error => rfl
  | ok passed =>
      dsimp only [bind, Except.bind]
      split
      · exact congrArg Except.ok (portions_pieces profile _)
      · refine congrArg Except.ok ?_
        rw [List.flatMap_append, List.flatMap_cons, portions_pieces]
        simp

theorem portionsFor_pieces (profile : Profile) (draft : Draft) (request : Request) :
    (draft.portionsFor profile request).map (List.flatMap Portion.pieces) =
      draft.piecesFor profile request := by
  have whole (changed : Draft) : (Except.ok (changed.portions profile) :
      Except QueryError (List Portion)).map (List.flatMap Portion.pieces) =
        .ok (changed.pieces profile) :=
    congrArg Except.ok (portions_pieces profile changed)
  cases request with
  | whole => exact whole draft
  | limited count => exact whole _
  | page offset size => exact whole _
  | count => exact aggregatePortions_pieces profile draft _
  | aggregate function column =>
      simp only [portionsFor, piecesFor]
      cases profile.column column with
      | error error => rfl
      | ok rendered => exact aggregatePortions_pieces profile draft _
  | presence =>
      simp only [portionsFor, piecesFor]
      cases draft.requireSelect "exists" with
      | error error => rfl
      | ok passed => exact whole _
  | column name =>
      simp only [portionsFor, piecesFor]
      cases draft.requireSelect "pluck" with
      | error error => rfl
      | ok passed =>
          cases profile.column name with
          | error error => rfl
          | ok rendered => exact whole _
  | pair value key =>
      simp only [portionsFor, piecesFor]
      cases draft.requireSelect "pluck_key_value" with
      | error error => rfl
      | ok passed =>
          cases profile.column value with
          | error error => rfl
          | ok first =>
              cases profile.column key with
              | error error => rfl
              | ok second => exact whole _
  | cursor column after limit =>
      simp only [portionsFor, piecesFor]
      cases profile.column column with
      | error error => rfl
      | ok rendered => exact whole _

/-! ### Two drafts -/

def Ported (own other : Draft) : Prop :=
  own.Related (fun _ _ => True) Piece.SameSlots other

variable {own other : Draft}

theorem bound_conditions (keyword : String) {firsts seconds : List Condition}
    (same : List.Forall₂ (Condition.Related Piece.SameSlots) firsts seconds) :
    Piece.values (conditionPieces keyword firsts) =
      Piece.values (conditionPieces keyword seconds) := by
  unfold conditionPieces
  rw [isEmpty_of_related same]
  split
  · rfl
  · exact ((Piece.sameSlots_chain same).cons_sql _ _).values

theorem bound_insertion {first second : Insertion}
    (same : Insertion.Related (fun _ _ => True) first second) :
    Piece.values (insertionPieces first) = Piece.values (insertionPieces second) := by
  unfold insertionPieces
  rw [same.rows]
  rfl

theorem bound_assignment {first second : Assignment}
    (same : Assignment.Related (fun _ _ => True) first second) :
    Piece.values (assignmentPieces first) = Piece.values (assignmentPieces second) := by
  have each : List.Forall₂ Piece.SameSlots
      (first.cells.map fun cell => [Piece.sql (cell.1 ++ " = "), .slot cell.2])
      (second.cells.map fun cell => [Piece.sql (cell.1 ++ " = "), .slot cell.2]) := by
    refine List.rel_map ?_ same.cells
    intro cell another both
    have slot : Piece.SameSlots [.slot cell.2] [.slot another.2] := by
      rw [both.2]
      rfl
    exact slot.cons_sql _ _
  exact (Piece.SameSlots.cons_sql _ _ (Piece.sameSlots_separated each)).values

theorem Ported.portions (ported : own.Ported other) (left right : Profile) :
    (own.portions left).map Portion.bound = (other.portions right).map Portion.bound := by
  have wheres := bound_conditions "WHERE" ported.wheres
  have havings := bound_conditions "HAVING" ported.havings
  have insertions := ported.insertion
  have assignments := ported.assignment
  have deletions := ported.frame.delete
  unfold Draft.portions
  generalize own.insertion = inserting at insertions ⊢
  generalize other.insertion = alsoInserting at insertions ⊢
  generalize own.assignment = updating at assignments ⊢
  generalize other.assignment = alsoUpdating at assignments ⊢
  generalize own.frame.delete = deleting at deletions ⊢
  generalize other.frame.delete = alsoDeleting at deletions ⊢
  cases insertions with
  | some insertion => simp [Portion.bound, bound_insertion insertion]
  | none =>
      cases assignments with
      | some assignment => simp [Portion.bound, bound_assignment assignment, wheres]
      | none =>
          cases deletions with
          | some deletion => simp [Portion.bound, wheres, Piece.values_text]
          | none => simp [Portion.bound, wheres, havings, Piece.values_text]

def SameClauses (own other : List Portion) : Prop :=
  own.map Portion.bound = other.map Portion.bound

theorem Ported.reframed (ported : own.Ported other) {first second : Clauses → Clauses}
    (frame : (first own.frame).Related (fun _ _ => True) (second other.frame))
    (left right : Profile) :
    Agree SameClauses (.ok ((own.reframe first).portions left))
      (.ok ((other.reframe second).portions right)) := by
  have changed : (own.reframe first).Ported (other.reframe second) :=
    { ported with frame := frame }
  exact .accepted (changed.portions left right)

theorem Ported.isWrite (ported : own.Ported other) : own.isWrite = other.isWrite := by
  have insertions := ported.insertion
  have assignments := ported.assignment
  have deletions := ported.frame.delete
  unfold Draft.isWrite
  rw [isSome_of_related insertions, isSome_of_related assignments, isSome_of_related deletions]

theorem Ported.requireSelect (ported : own.Ported other) (terminal : String) :
    own.requireSelect terminal = other.requireSelect terminal := by
  unfold Draft.requireSelect
  rw [ported.raw, ported.isWrite]

theorem Ported.foldWheres (ported : own.Ported other) : own.foldWheres.Ported other.foldWheres := by
  have divided : (own.wheres.drop 1).any (fun condition => condition.combinator == .or) =
      (other.wheres.drop 1).any (fun condition => condition.combinator == .or) := by
    have combinators : own.wheres.map Condition.combinator =
        other.wheres.map Condition.combinator := by
      rw [← List.forall₂_eq_eq_eq]
      exact List.rel_map (fun _ _ same => same.combinator) ported.wheres
    have apart (conditions : List Condition) :
        (conditions.drop 1).any (fun condition => condition.combinator == .or) =
          ((conditions.map Condition.combinator).drop 1).any (· == .or) := by
      rw [← List.map_drop, List.any_map]
      rfl
    rw [apart, apart, combinators]
  unfold Draft.foldWheres
  rw [divided]
  split
  · have folded := (Piece.sameSlots_chain ported.wheres).enclosed
    exact { ported with wheres := .cons ⟨rfl, folded⟩ .nil }
  · exact ported

theorem Ported.behindCursor (ported : own.Ported other) (first second : String)
    (after : Option Value) :
    (own.behindCursor first after).Ported (other.behindCursor second after) := by
  cases after with
  | none => exact ported
  | some value => exact ported.foldWheres.addWhere .and (Piece.SameSlots.cons_sql _ _ rfl)

theorem Ported.aggregatePortions (ported : own.Ported other) (left right : Profile)
    (first second : String) :
    Agree SameClauses (own.aggregatePortions left first)
      (other.aggregatePortions right second) := by
  unfold Draft.aggregatePortions
  rw [ported.requireSelect, isEmpty_of_related ported.frame.groups, ported.frame.distinct]
  refine Agree.after _ fun _ _ => ?_
  dsimp only
  split
  · refine ported.reframed ?_ left right
    exact { ported.frame with
      columns := .cons trivial .nil
      distinct := rfl
      orders := .nil
      limit := rfl
      offset := rfl }
  · let bare (frame : Clauses) : Clauses :=
      { frame with orders := [], limit := none, offset := none }
    have frames : (bare own.frame).Related (fun _ _ => True) (bare other.frame) :=
      { ported.frame with orders := .nil, limit := rfl, offset := rfl }
    have inner := (ported.reframed frames left right).ok_ok
    unfold SameClauses at inner
    refine .accepted ?_
    unfold SameClauses
    simp only [List.map_append, List.map_cons]
    rw [inner]
    rfl

theorem Ported.portionsFor (ported : own.Ported other) (left right : Profile) (request : Request) :
    Agree SameClauses (own.portionsFor left request) (other.portionsFor right request) := by
  cases request with
  | whole => exact .accepted (ported.portions left right)
  | limited count => exact ported.reframed { ported.frame with limit := rfl } left right
  | page offset size =>
      exact ported.reframed { ported.frame with limit := rfl, offset := rfl } left right
  | count => exact ported.aggregatePortions left right _ _
  | aggregate function column =>
      exact (column_ported left right column).bind fun _ =>
        ported.aggregatePortions left right _ _
  | presence =>
      simp only [Draft.portionsFor, ported.requireSelect]
      refine Agree.after _ fun _ _ => ported.reframed ?_ left right
      exact { ported.frame with columns := .cons trivial .nil, orders := .nil, limit := rfl }
  | column name =>
      simp only [Draft.portionsFor, ported.requireSelect]
      refine Agree.after _ fun _ _ => (column_ported left right name).bind fun _ => ?_
      exact ported.reframed { ported.frame with columns := .cons trivial .nil } left right
  | pair value key =>
      simp only [Draft.portionsFor, ported.requireSelect]
      refine Agree.after _ fun _ _ => (column_ported left right value).bind fun _ => ?_
      refine (column_ported left right key).bind fun _ => ?_
      exact ported.reframed
        { ported.frame with columns := .cons trivial (.cons trivial .nil) } left right
  | cursor column after limit =>
      refine (column_ported left right column).bind fun {first second} _ => ?_
      have narrowed := ported.behindCursor first second after
      exact narrowed.reframed { narrowed.frame with
        orders := .cons ⟨trivial, rfl, rfl⟩ .nil
        limit := rfl
        offset := rfl } left right

end Draft

/-- Builders of two profiles that stand for drafts which differ in their texts alone. -/
structure Builder.Ported (left right : Profile) (own other : Builder) : Prop where
  left : own.profile = left
  right : other.profile = right
  ownAligned : own.clauses.Aligned
  otherAligned : other.clauses.Aligned
  draft : own.clauses.draft.Ported other.clauses.draft

namespace Builder

variable {left right : Profile} {own other : Builder}

theorem Ported.apply (ported : own.Ported left right other) (call : Call) :
    Agree (Builder.Ported left right) (own.apply call) (other.apply call) := by
  obtain ⟨rfl, rfl, aligned, alsoAligned, draft⟩ := ported
  have agree := Draft.apply_related (own.profile.ported other.profile) call draft
    (fun _ _ => trivial) (fun _ _ => trivial)
  rcases agree.outcomes with ⟨error, mine, yours⟩ | ⟨_, _, mine, yours, related⟩
  · rw [apply_refused aligned mine, apply_refused alsoAligned yours]
    exact .refused error
  · obtain ⟨next, made, kind, stays, rfl⟩ := apply_accepted aligned mine
    obtain ⟨reached, done, otherKind, alsoStays, rfl⟩ := apply_accepted alsoAligned yours
    rw [made, done]
    exact .accepted ⟨kind, otherKind, stays, alsoStays, related⟩

theorem Ported.attempt {calls : List Call} :
    ∀ {own other : Builder}, own.Ported left right other →
      (own.attempt calls).1 = (other.attempt calls).1 ∧
        (own.attempt calls).2.Ported left right (other.attempt calls).2 := by
  induction calls with
  | nil => exact fun ported => ⟨rfl, ported⟩
  | cons call rest ih =>
      intro own other ported
      have step := ported.apply call
      unfold Builder.attempt
      generalize own.apply call = mine at step ⊢
      generalize other.apply call = yours at step ⊢
      cases step with
      | refused error =>
          obtain ⟨refusals, reached⟩ := ih ported
          exact ⟨congrArg (some error :: ·) refusals, reached⟩
      | accepted next =>
          obtain ⟨refusals, reached⟩ := ih next
          exact ⟨congrArg (none :: ·) refusals, reached⟩

end Builder

/-- The statements of two builders for one request. A raw statement is the same for both; any other
divides into the same clauses, and each clause has the same values in its slots. -/
inductive SameShape (left right : Profile) (own other : Draft) (request : Request) :
    Statement → Statement → Prop where
  | raw (statement : Statement) (pending : own.raw = some statement)
      (alsoPending : other.raw = some statement) :
      SameShape left right own other request statement statement
  | clauses (portions others : List Portion) (mine : own.portionsFor left request = .ok portions)
      (yours : other.portionsFor right request = .ok others)
      (same : portions.map Portion.bound = others.map Portion.bound) :
      SameShape left right own other request
        (Piece.statement left (portions.flatMap Portion.pieces))
        (Piece.statement right (others.flatMap Portion.pieces))

namespace Draft

variable {own other : Draft} {left right : Profile} {request : Request}

/-- A statement of clauses binds what stands in their slots, one clause after another. -/
theorem bindings_portions (profile : Profile) (portions : List Portion) :
    (Piece.statement profile (portions.flatMap Portion.pieces)).bindings =
      (portions.map Portion.bound).flatMap Prod.snd := by
  change Piece.values (portions.flatMap Portion.pieces) = _
  induction portions with
  | nil => rfl
  | cons portion rest ih =>
      rw [List.flatMap_cons, Piece.values_append, ih]
      rfl

theorem Ported.statementFor (ported : own.Ported other) (left right : Profile)
    (request : Request) :
    Agree (SameShape left right own other request) (own.statementFor left request)
      (other.statementFor right request) := by
  have agree := ported.portionsFor left right request
  unfold Draft.statementFor
  rw [← portionsFor_pieces, ← portionsFor_pieces, ← ported.raw]
  rcases agree.outcomes with ⟨error, mine, yours⟩ | ⟨portions, others, mine, yours, same⟩
  · rw [mine, yours]
    exact .refused error
  · rw [mine, yours]
    cases pending : own.raw with
    | some raw => exact .accepted (.raw raw pending (ported.raw ▸ pending))
    | none => exact .accepted (.clauses portions others mine yours same)

theorem bindings_of_sameShape {statement another : Statement}
    (same : SameShape left right own other request statement another) :
    statement.bindings = another.bindings := by
  cases same with
  | raw statement _ _ => rfl
  | clauses portions others _ _ same => rw [bindings_portions, bindings_portions, same]

end Draft

/-- Under any two profiles, the same calls are refused for the same reasons, and every request is
then refused alike or answered with statements that bind the same values in the same clauses. -/
theorem profiles_differ_in_spelling_alone (left right : Profile) (cacheable : Bool)
    (calls : List Call) :
    let own := ({ profile := left, cacheable := cacheable } : Builder).attempt calls
    let other := ({ profile := right, cacheable := cacheable } : Builder).attempt calls
    own.1 = other.1 ∧ ∀ request : Request,
      Agree (fun statement another => statement.bindings = another.bindings ∧
          SameShape left right own.2.clauses.draft other.2.clauses.draft request statement another)
        (own.2.statementOf request) (other.2.statementOf request) := by
  intro own other
  have start : Builder.Ported left right { profile := left, cacheable := cacheable }
      { profile := right, cacheable := cacheable } :=
    ⟨rfl, rfl, Clauses.aligned_empty, Clauses.aligned_empty, Draft.related_nothing⟩
  obtain ⟨refusals, reached⟩ := start.attempt
  refine ⟨refusals, fun request => ?_⟩
  have agree := reached.draft.statementFor left right request
  rw [Builder.statementOf_eq_statementFor reached.ownAligned,
    Builder.statementOf_eq_statementFor reached.otherAligned, reached.left, reached.right]
  generalize own.2.clauses.draft.statementFor left request = mine at agree ⊢
  generalize other.2.clauses.draft.statementFor right request = yours at agree ⊢
  cases agree with
  | refused error => exact .refused error
  | accepted same => exact .accepted ⟨Draft.bindings_of_sameShape same, same⟩

end BoundQuery
