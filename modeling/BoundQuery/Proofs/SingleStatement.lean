import BoundQuery.Proofs.Alignment
import BoundQuery.Proofs.Correspondence
import BoundQuery.Proofs.TidyFrame

/-!
A compiled text is one statement from its first character to its last: whatever the callers put in,
no separator and no comment mark stands in it, neither inside a text of theirs nor where two texts
meet. Only a raw statement, which is passed on as it is, may have them.
-/

set_option autoImplicit false

namespace BoundQuery

variable {profile : Profile}

namespace Piece

variable {pieces : List Piece} {column : String}

def Tidy (profile : Profile) (result : Except QueryError (List Piece)) : Prop :=
  ∀ pieces, result = .ok pieces → Written profile Clean pieces

theorem written_against (written : profile.Tidy) {left : String} (own : Clean left.toList)
    (operator : Operator) (value : Value) :
    Written profile Clean [.sql (left ++ " " ++ operator.text ++ " "), .slot value] :=
  Written.append Ends.append (written_sql (Clauses.ends_compared own operator))
    (written_slot (fun number => (written.placeholder number).clean) value)

theorem tidy_comparison (written : profile.Tidy) (operator : String) (value : Value) :
    Tidy profile (comparison profile column operator value) := by
  intro pieces made
  obtain ⟨operation, _, further⟩ := exists_of_bind_ok made
  obtain ⟨rendered, accepted, last⟩ := exists_of_bind_ok further
  have own := written.column accepted
  split at last
  · cases last
    exact written_sql (own.followed (by decide))
  · split at last
    · cases last
      exact written_sql (own.followed (by decide))
    · cases last
      exact written_against written own operation value

theorem tidy_membership (written : profile.Tidy) (negated : Bool) (values : List Value) :
    Tidy profile (membership profile negated column values) := by
  intro pieces made
  obtain ⟨rendered, accepted, last⟩ := exists_of_bind_ok made
  have own := written.column accepted
  split at last
  · cases last
    refine written_sql ?_
    cases negated with
    | _ => decide
  · cases last
    have opening :
        Ends (rendered ++ " " ++ (if negated then "NOT IN" else "IN") ++ " (").toList := by
      cases negated with
      | _ => exact ((own.followed (by decide)).followed (by decide)).closed (by decide)
    have list := Written.append Ends.append (written_sql opening)
      (written_listed written.placeholder values)
    exact Written.append Clean.then_opens list (written_sql (by decide))

theorem written_range (written : profile.Tidy) {left : String} (own : Ends left.toList)
    (low high : Value) : Written profile Clean (range left low high) := by
  have slot (value : Value) : Written profile Clean [.slot value] :=
    written_slot (fun number => (written.placeholder number).clean) value
  have least : Written profile Clean [.sql left, .slot low] :=
    Written.append Ends.append (written_sql own) (slot low)
  have most : Written profile Opens [.sql " AND ", .slot high] :=
    Written.append Sealed.append (written_sql (by decide)) (slot high)
  exact Written.append Clean.then_opens least most

theorem tidy_between (written : profile.Tidy) (negated : Bool) (low high : Value) :
    Tidy profile (between profile negated column low high) := by
  intro pieces made
  obtain ⟨rendered, accepted, last⟩ := exists_of_bind_ok made
  cases last
  refine written_range written ?_ low high
  have own := written.column accepted
  cases negated with
  | _ => exact ((own.followed (by decide)).followed (by decide)).closed (by decide)

theorem tidy_nullTest (written : profile.Tidy) (negated : Bool) :
    Tidy profile (nullTest profile negated column) := by
  intro pieces made
  obtain ⟨rendered, accepted, last⟩ := exists_of_bind_ok made
  cases last
  refine written_sql ((written.column accepted).followed ?_)
  cases negated with
  | _ => decide

theorem tidy_datePart (written : profile.Tidy) (part : DatePart) (operator : String)
    (value : Value) : Tidy profile (datePart profile part column operator value) := by
  intro pieces made
  obtain ⟨operation, _, further⟩ := exists_of_bind_ok made
  obtain ⟨rendered, accepted, last⟩ := exists_of_bind_ok further
  cases last
  exact written_against written (written.extract part (written.column accepted)) operation value

theorem tidy_relativeDate (written : profile.Tidy) {comparison relative : String}
    (between : Sealed comparison.toList) (computed : Clean relative.toList) :
    Tidy profile (relativeDate profile column comparison relative) := by
  intro pieces made
  obtain ⟨rendered, accepted, last⟩ := exists_of_bind_ok made
  cases last
  have own := written.extract .date (written.column accepted)
  exact written_sql ((Clean.closed own between).followed computed)

theorem tidy_dateRange (written : profile.Tidy) (start stop : DateInput) :
    Tidy profile (dateRange profile column start stop) := by
  intro pieces made
  obtain ⟨_, _, further⟩ := exists_of_bind_ok made
  obtain ⟨_, _, further⟩ := exists_of_bind_ok further
  obtain ⟨rendered, accepted, last⟩ := exists_of_bind_ok further
  cases last
  have own := written.extract .date (written.column accepted)
  exact written_range written (Clean.closed own (by decide)) _ _

theorem tidy_having (written : profile.Tidy) (operator : String) (value : Value) :
    Tidy profile (having profile column operator value) := by
  intro pieces made
  obtain ⟨operation, _, further⟩ := exists_of_bind_ok made
  obtain ⟨rendered, accepted, last⟩ := exists_of_bind_ok further
  cases last
  exact written_against written (written.column accepted) operation value

theorem written_chain {conditions : List Condition}
    (each : ∀ condition ∈ conditions, Written profile Clean condition.pieces) :
    Written profile Clean (chain conditions) := by
  cases conditions with
  | nil => exact written_nil clean_nil
  | cons first rest =>
      obtain ⟨own, others⟩ := List.forall_mem_cons.mp each
      refine Written.append Clean.then_opens own ?_
      clear each own
      induction rest with
      | nil => exact written_nil opens_nil
      | cons condition further ih =>
          obtain ⟨next, later⟩ := List.forall_mem_cons.mp others
          have joint : Sealed (" " ++ condition.combinator.text ++ " ").toList := by
            cases condition.combinator with
            | _ => decide
          rw [List.flatMap_cons]
          exact Written.append Opens.append
            (Written.append Sealed.append (written_sql joint) next) (ih later)

end Piece

/-- A tidy profile corresponds to itself in that all it writes is clean, whatever it is given. -/
theorem Profile.Tidy.corresponds (written : profile.Tidy) :
    profile.Corresponds profile (fun _ => True) (fun _ _ => True) (fun own _ => Clean own.toList)
      (fun own _ => Piece.Written profile Clean own) where
  table _ := Agree.of_ok fun _ accepted => written.table accepted
  column _ := Agree.of_ok fun _ accepted => written.column accepted
  aliasName _ := Agree.of_ok fun _ accepted => written.aliasName accepted
  compared operator first second := (Clauses.ends_compared first operator).followed second
  named first second := (first.closed (by decide)).followed second
  joined _ checked := Clauses.clean_trimmed (clean_checked checked)
  ordered _ checked := Clauses.clean_trimmed (clean_checked checked)
  comparison operator value _ := Agree.of_ok (Piece.tidy_comparison written operator value)
  membership negated values _ := Agree.of_ok (Piece.tidy_membership written negated values)
  between negated low high _ := Agree.of_ok (Piece.tidy_between written negated low high)
  nullTest negated _ := Agree.of_ok (Piece.tidy_nullTest written negated)
  datePart part operator value _ := Agree.of_ok (Piece.tidy_datePart written part operator value)
  today _ := Agree.of_ok (Piece.tidy_relativeDate written (by decide) written.currentDate)
  daysAgo days comparison _ := by
    refine Agree.of_ok (Piece.tidy_relativeDate written ?_ (written.dateMinusDays days))
    rcases comparison with rfl | rfl
    · decide
    · decide
  dateRange start stop _ := Agree.of_ok (Piece.tidy_dateRange written start stop)
  having operator value _ := Agree.of_ok (Piece.tidy_having written operator value)
  rawCondition _ _ _ made := Piece.written_rawCondition written.placeholder made
  enclosed own := Piece.written_enclosed own
  chain each := Piece.written_chain (forall_of_related each fun own => own.pieces)

/-! ### Drafts -/

namespace Draft

variable {draft next : Draft}

structure Tidy (profile : Profile) (draft : Draft) : Prop where
  frame : draft.frame.Tidy
  wheres : ∀ condition ∈ draft.wheres, Piece.Written profile Clean condition.pieces
  havings : ∀ condition ∈ draft.havings, Piece.Written profile Clean condition.pieces
  insertion : ∀ insertion, draft.insertion = some insertion →
    Clean insertion.table.toList ∧ ∀ column ∈ insertion.columns, Clean column.toList
  assignment : ∀ assignment, draft.assignment = some assignment →
    Clean assignment.table.toList ∧ ∀ cell ∈ assignment.cells, Clean cell.1.toList

theorem tidy_nothing : ({} : Draft).Tidy profile where
  frame := Clauses.tidy_nothing
  wheres _ member := by cases member
  havings _ member := by cases member
  insertion _ found := by cases found
  assignment _ found := by cases found

theorem Tidy.addWhere (tidy : draft.Tidy profile) (combinator : Combinator)
    {pieces : List Piece} (own : Piece.Written profile Clean pieces) :
    (draft.addWhere combinator pieces).Tidy profile :=
  { tidy with wheres := Clauses.forall_mem_concat tidy.wheres own }

theorem tidy_of_related
    (related : draft.Related (fun own _ => Clean own.toList)
      (fun own _ => Piece.Written profile Clean own) draft) : draft.Tidy profile where
  frame := {
    columns := List.forall₂_same.mp related.frame.columns
    source := fun source given => by
      obtain ⟨_, _, same⟩ := exists_of_related related.frame.source given
      refine ⟨same.rendered, fun aliasName named => ?_⟩
      exact (exists_of_related same.aliasName named).choose_spec.2
    joins := fun join listed => by
      have same := List.forall₂_same.mp related.frame.joins join listed
      refine ⟨same.table, fun condition found => ?_⟩
      exact (exists_of_related same.condition found).choose_spec.2
    groups := List.forall₂_same.mp related.frame.groups
    orders := fun order listed =>
      (List.forall₂_same.mp related.frame.orders order listed).column
    delete := fun delete given => (exists_of_related related.frame.delete given).choose_spec.2 }
  wheres condition listed := (List.forall₂_same.mp related.wheres condition listed).pieces
  havings condition listed := (List.forall₂_same.mp related.havings condition listed).pieces
  insertion insertion given := by
    obtain ⟨_, _, same⟩ := exists_of_related related.insertion given
    exact ⟨same.table, forall_of_related same.columns fun own => own⟩
  assignment assignment given := by
    obtain ⟨_, _, same⟩ := exists_of_related related.assignment given
    exact ⟨same.table, forall_of_related same.cells fun own => own.1⟩

theorem Tidy.related (tidy : draft.Tidy profile) :
    draft.Related (fun own _ => Clean own.toList) (fun own _ => Piece.Written profile Clean own)
      draft where
  frame := {
    columns := List.forall₂_same.mpr tidy.frame.columns
    distinct := rfl
    source := rel_self fun source given => by
      obtain ⟨rendered, named⟩ := tidy.frame.source source given
      exact ⟨rfl, rendered, rel_self named⟩
    joins := List.forall₂_same.mpr fun join listed => by
      obtain ⟨table, condition⟩ := tidy.frame.joins join listed
      exact ⟨rfl, table, rel_self condition⟩
    groups := List.forall₂_same.mpr tidy.frame.groups
    orders := List.forall₂_same.mpr fun order listed => ⟨tidy.frame.orders order listed, rfl, rfl⟩
    limit := rfl
    offset := rfl
    delete := rel_self tidy.frame.delete }
  wheres := List.forall₂_same.mpr fun condition listed => ⟨rfl, tidy.wheres condition listed⟩
  havings := List.forall₂_same.mpr fun condition listed => ⟨rfl, tidy.havings condition listed⟩
  insertion := rel_self fun insertion given => by
    obtain ⟨table, columns⟩ := tidy.insertion insertion given
    exact ⟨table, List.forall₂_same.mpr columns, rfl⟩
  assignment := rel_self fun assignment given => by
    obtain ⟨table, columns⟩ := tidy.assignment assignment given
    exact ⟨table, List.forall₂_same.mpr fun cell listed => ⟨columns cell listed, rfl⟩⟩
  raw := rfl

theorem applyAll_tidy (written : profile.Tidy) (calls : List Call) {draft next : Draft}
    (tidy : draft.Tidy profile) (applied : draft.applyAll profile calls = .ok next) :
    next.Tidy profile := by
  have agree := applyAll_related written.corresponds calls tidy.related
    (fun _ _ => trivial) (fun _ _ => trivial)
  rw [applied] at agree
  exact tidy_of_related agree.ok_ok

theorem opens_conditions {keyword : String} (lead : Sealed (" " ++ keyword ++ " ").toList)
    {conditions : List Condition}
    (each : ∀ condition ∈ conditions, Piece.Written profile Clean condition.pieces) :
    Piece.Written profile Opens (conditionPieces keyword conditions) := by
  unfold conditionPieces
  split
  · exact Piece.written_nil opens_nil
  · exact Piece.Written.append Sealed.append (Piece.written_sql lead) (Piece.written_chain each)

theorem written_insertion (written : profile.Tidy) {insertion : Insertion}
    (table : Clean insertion.table.toList)
    (columns : ∀ column ∈ insertion.columns, Clean column.toList) :
    Piece.Written profile Clean (insertionPieces insertion) := by
  have opening : Ends ("INSERT INTO " ++ insertion.table ++ " (" ++
      commaSeparated insertion.columns ++ ") VALUES ").toList := by
    have named : Clean ("INSERT INTO " ++ insertion.table ++ " (" ++
        commaSeparated insertion.columns).toList :=
      (Clean.closed (Sealed.followed (by decide) table).1 (by decide)).followed
        (clean_commaSeparated columns)
    exact named.closed (by decide)
  refine Piece.Written.append Ends.append (Piece.written_sql opening) ?_
  refine Piece.written_separated fun entry member => ?_
  obtain ⟨row, _, rfl⟩ := List.mem_map.mp member
  exact Piece.written_enclosed (Piece.written_listed written.placeholder row)

theorem written_assignment (written : profile.Tidy) {assignment : Assignment}
    (table : Clean assignment.table.toList)
    (columns : ∀ cell ∈ assignment.cells, Clean cell.1.toList) :
    Piece.Written profile Clean (assignmentPieces assignment) := by
  have opening : Ends ("UPDATE " ++ assignment.table ++ " SET ").toList :=
    Clean.closed (Sealed.followed (by decide) table).1 (by decide)
  refine Piece.Written.append Ends.append (Piece.written_sql opening) ?_
  refine Piece.written_separated fun entry member => ?_
  obtain ⟨cell, listed, rfl⟩ := List.mem_map.mp member
  exact Piece.Written.append Ends.append
    (Piece.written_sql (Clean.closed (columns cell listed) (by decide)))
    (Piece.written_slot (fun number => (written.placeholder number).clean) cell.2)

theorem Tidy.opens_tail (tidy : draft.Tidy profile) (written : profile.Tidy) :
    Piece.Written profile Opens (draft.tailPieces profile) := by
  have groups : Piece.Written profile Opens [.sql draft.frame.groupText] :=
    Piece.written_sql tidy.frame.opens_group
  have havings : Piece.Written profile Opens (conditionPieces "HAVING" draft.havings) :=
    opens_conditions (by decide) tidy.havings
  have ending : Piece.Written profile Opens
      [.sql (draft.frame.orderText ++ draft.frame.pagingText profile)] :=
    Piece.written_sql (tidy.frame.opens_order.followed (Clauses.opens_paging written draft.frame))
  exact Piece.Written.append Opens.append (Piece.Written.append Opens.append groups havings) ending

theorem Tidy.pieces (tidy : draft.Tidy profile) (written : profile.Tidy) :
    Piece.Written profile Clean (draft.pieces profile) := by
  have wheres : Piece.Written profile Opens (conditionPieces "WHERE" draft.wheres) :=
    opens_conditions (by decide) tidy.wheres
  unfold Draft.pieces
  cases inserting : draft.insertion with
  | some insertion =>
      obtain ⟨table, columns⟩ := tidy.insertion insertion inserting
      exact written_insertion written table columns
  | none =>
      cases updating : draft.assignment with
      | some assignment =>
          obtain ⟨table, columns⟩ := tidy.assignment assignment updating
          exact Piece.Written.append Clean.then_opens (written_assignment written table columns)
            wheres
      | none =>
          cases deleting : draft.frame.delete with
          | some delete =>
              have opening : Clean ("DELETE FROM " ++ delete.table).toList :=
                (Sealed.followed (by decide) (tidy.frame.delete delete deleting)).1
              exact Piece.Written.append Clean.then_opens (Piece.written_sql opening) wheres
          | none =>
              have heading : Clean draft.headText.toList :=
                tidy.frame.clean_projection.followed tidy.frame.opens_source
              have query : Piece.Written profile Clean
                  (.sql draft.headText :: conditionPieces "WHERE" draft.wheres) :=
                Piece.Written.append Clean.then_opens (Piece.written_sql heading) wheres
              exact Piece.Written.append Clean.then_opens query (tidy.opens_tail written)

theorem Tidy.reframe (tidy : draft.Tidy profile) {change : Clauses → Clauses}
    (kept : (change draft.frame).Tidy) : (draft.reframe change).Tidy profile :=
  { tidy with frame := kept }

theorem Tidy.behindCursor (tidy : draft.Tidy profile) (written : profile.Tidy) {column : String}
    (own : Clean column.toList) (after : Option Value) :
    (draft.behindCursor column after).Tidy profile := by
  have folded : draft.foldWheres.Tidy profile := by
    unfold foldWheres
    split
    · exact { tidy with
        wheres := List.forall_mem_singleton.mpr
          (Piece.written_enclosed (Piece.written_chain tidy.wheres)) }
    · exact tidy
  cases after with
  | none => exact tidy
  | some value =>
      have comparison : Piece.Written profile Clean [.sql (column ++ " > "), .slot value] :=
        Piece.Written.append Ends.append (Piece.written_sql (own.closed (by decide)))
          (Piece.written_slot (fun number => (written.placeholder number).clean) value)
      exact folded.addWhere .and comparison

theorem Tidy.aggregate (tidy : draft.Tidy profile) (written : profile.Tidy) {expression : String}
    (own : Clean expression.toList) {pieces : List Piece}
    (made : draft.aggregatePieces profile expression = .ok pieces) :
    Piece.Written profile Clean pieces := by
  obtain ⟨_, _, further⟩ := exists_of_bind_ok made
  have projection : Clean (expression ++ " AS " ++ aggregateAlias).toList :=
    (own.followed (by decide)).followed (by decide)
  dsimp only at further
  split at further
  · cases further
    refine (tidy.reframe ?_).pieces written
    exact { tidy.frame with
      columns := List.forall_mem_singleton.mpr projection
      orders := fun _ member => by cases member }
  · cases further
    have unordered : (draft.reframe fun frame =>
        { frame with orders := [], limit := none, offset := none }).Tidy profile := by
      refine tidy.reframe ?_
      exact { tidy.frame with orders := fun _ member => by cases member }
    have inner := unordered.pieces written
    have opening : Ends ("SELECT " ++ (expression ++ " AS " ++ aggregateAlias) ++
        " FROM (").toList :=
      Clean.closed (Sealed.followed (by decide) projection).1 (by decide)
    have query := Piece.Written.append Ends.append (Piece.written_sql opening) inner
    exact Piece.Written.append Clean.then_opens query (Piece.written_sql (by decide))

theorem Tidy.piecesFor (tidy : draft.Tidy profile) (written : profile.Tidy) (request : Request)
    {pieces : List Piece} (made : draft.piecesFor profile request = .ok pieces) :
    Piece.Written profile Clean pieces := by
  cases request with
  | whole =>
      cases made
      exact tidy.pieces written
  | limited count =>
      cases made
      exact (tidy.reframe { tidy.frame with }).pieces written
  | page offset size =>
      cases made
      exact (tidy.reframe { tidy.frame with }).pieces written
  | count => exact tidy.aggregate written (by decide) made
  | aggregate function column =>
      obtain ⟨rendered, accepted, further⟩ := exists_of_bind_ok made
      refine tidy.aggregate written ?_ further
      have name : Sealed (function.text ++ "(").toList := by
        cases function with
        | _ => decide
      exact (name.followed (written.column accepted)).1.followed (by decide)
  | presence =>
      obtain ⟨_, _, same⟩ := exists_of_bind_ok made
      cases same
      refine (tidy.reframe ?_).pieces written
      exact { tidy.frame with
        columns := List.forall_mem_singleton.mpr (by decide)
        orders := fun _ member => by cases member }
  | column name =>
      obtain ⟨_, _, further⟩ := exists_of_bind_ok made
      obtain ⟨rendered, accepted, same⟩ := exists_of_bind_ok further
      cases same
      refine (tidy.reframe ?_).pieces written
      exact { tidy.frame with
        columns := List.forall_mem_singleton.mpr (written.column accepted) }
  | pair value key =>
      obtain ⟨_, _, further⟩ := exists_of_bind_ok made
      obtain ⟨first, accepted, further⟩ := exists_of_bind_ok further
      obtain ⟨second, keyed, same⟩ := exists_of_bind_ok further
      cases same
      refine (tidy.reframe ?_).pieces written
      exact { tidy.frame with
        columns := List.forall_mem_cons.mpr ⟨written.column accepted,
          List.forall_mem_singleton.mpr (written.column keyed)⟩ }
  | cursor column after limit =>
      obtain ⟨rendered, accepted, same⟩ := exists_of_bind_ok made
      cases same
      have own := written.column accepted
      have behind := tidy.behindCursor written own after
      refine (behind.reframe ?_).pieces written
      exact { behind.frame with orders := List.forall_mem_singleton.mpr own }

end Draft

/-- A program without raw statements leads to a builder that compiles, and whatever is asked of it
goes out as a text without a separator, a comment mark or NUL. -/
theorem sent_as_single_statement (dialect : Dialect) (cacheable : Bool) (calls : List Call)
    (builder : Builder) (typed : ∀ call ∈ calls, call.isRaw = false)
    (reached : ({ profile := dialect.profile, cacheable := cacheable } : Builder).applyAll calls =
      .ok builder) :
    (∃ statement, builder.statement = .ok statement) ∧
      ∀ (request : Request) (statement : Statement),
        builder.statementOf request = .ok statement →
          ∀ mark ∈ [";", "--", "/*", "*/", "\x00"], ¬mark.toList <:+: statement.sql.toList := by
  obtain ⟨kind, aligned, meant⟩ := Builder.reached_draft reached
  have unset := Clauses.raw_of_draft typed meant
  have tidy : builder.clauses.draft.Tidy dialect.profile :=
    Draft.applyAll_tidy dialect.tidy calls Draft.tidy_nothing meant
  constructor
  · have compiled := Builder.statementOf_eq aligned unset .whole
    exact ⟨_, compiled⟩
  · intro request statement sent mark listed found
    rw [Builder.statementOf_eq aligned unset, kind] at sent
    obtain ⟨pieces, made, same⟩ := exists_of_map_ok sent
    have clean := tidy.piecesFor dialect.tidy request made 1
    have text : statement.sql.toList =
        Piece.writeFrom dialect.profile.placeholder 1 pieces := by
      rw [← same]
      exact String.toList_ofList
    have marks : [";", "--", "/*", "*/", "\x00"].map String.toList =
        Identifier.forbiddenSequences := by
      decide
    rw [text] at found
    refine clean_iff.mp clean mark.toList ?_ found
    rw [← marks]
    exact List.mem_map_of_mem listed

/-- Texts that come as close to a comment as they may: each is accepted, and they meet each other
and the words of the dialect. -/
def sharpEdges : List Call :=
  [.readFrom "a /(", .select ["*", "count(*)", "(-"], .joinRaw .left "(b /" "- ? /",
    .whereRaw .and "*-??-*" [], .group .or [.whereRaw .or "-?*" [.int (-1)],
      .compare .and "(x -" "=" (.string "--")], .havingRaw "/" [], .havingRaw "*" [],
    .orderByRaw "-", .orderByRaw "/", .limit 3]

theorem sharp_edges_sent_as_single_statement :
    ∃ builder : Builder,
      ({ profile := Dialect.sqlite.profile } : Builder).applyAll sharpEdges = .ok builder ∧
      (∃ statement, builder.statement = .ok statement) ∧
      ∀ (request : Request) (statement : Statement),
        builder.statementOf request = .ok statement →
          ∀ mark ∈ [";", "--", "/*", "*/", "\x00"], ¬mark.toList <:+: statement.sql.toList := by
  have accepted : (({ profile := Dialect.sqlite.profile } : Builder).applyAll sharpEdges).isOk := by
    decide +kernel
  obtain ⟨builder, reached⟩ := ok_of_isOk accepted
  obtain ⟨compiled, single⟩ :=
    sent_as_single_statement .sqlite false sharpEdges builder (by decide) reached
  exact ⟨builder, reached, compiled, single⟩

end BoundQuery
