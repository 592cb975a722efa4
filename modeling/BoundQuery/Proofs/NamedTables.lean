import BoundQuery.Proofs.Headings

/-!
The tables that are found in the text of a query. Each table that stands behind `FROM` or `JOIN` is
among them, in the statement of the query itself and in all those that are made from it for reading.
-/

set_option autoImplicit false

namespace BoundQuery

/-- No find that starts in this text or in front of it reaches past a space behind it. -/
def Closed (chars : List Char) : Prop :=
  ∀ front, Separate (front ++ chars)

theorem EndsQuoted.closed {chars : List Char} (quoted : EndsQuoted chars) : Closed chars :=
  fun front => (quoted.append front).separate

theorem Closed.append (front : List Char) {chars : List Char} (closed : Closed chars) :
    Closed (front ++ chars) := by
  intro before
  rw [← List.append_assoc]
  exact closed (before ++ front)

def Clear (rest : List Char) : Prop :=
  ∀ char, rest.head? = some char → char = ' ' ∨ char = ')'

namespace Clear

variable {first second rest : List Char}

theorem nil : Clear [] := nofun

theorem space (rest : List Char) : Clear (' ' :: rest) := by
  intro char head
  cases head
  exact .inl rfl

theorem append (left : Clear first) (right : Clear second) : Clear (first ++ second) := by
  cases first with
  | nil => exact right
  | cons char more => exact left

theorem nameEnds (clear : Clear rest) : NameEnds rest := by
  intro char head
  rcases clear char head with rfl | rfl
  · decide
  · decide

theorem not_point (clear : Clear rest) : rest.head? ≠ some '.' := by
  intro head
  rcases clear '.' head with impossible | impossible
  · exact absurd impossible (by decide)
  · exact absurd impossible (by decide)

end Clear

/-- The name under which a table is found: its last part in lower case. -/
def tableLabel (table : String) : String :=
  String.ofList (Text.lowerChars (lastSegment table))

theorem found_behind {dialect : Dialect} {table rendered : String} (plain : IsPlainName table)
    (accepted : dialect.profile.table table = .ok rendered) {front word rest : List Char}
    (separate : Separate front) (keyword : word ∈ readWords) (clear : Clear rest) {sql : String}
    (written : sql.toList = front ++ ' ' :: (word ++ ' ' :: (rendered.toList ++ rest))) :
    tableLabel table ∈ referencedTables sql := by
  obtain ⟨part, others, split, plainParts⟩ := plain.parts
  rw [table_plain plain accepted, split] at written
  unfold tableLabel
  rw [lastSegment_of_parts split]
  exact mem_referencedTables dialect.marks_proper separate keyword part others plainParts
    clear.nameEnds clear.not_point written

theorem Source.text_split (source : Source) : ∃ behind, Clear behind ∧
    source.text.toList = ' ' :: ("FROM".toList ++ ' ' :: (source.rendered.toList ++ behind)) := by
  obtain ⟨name, rendered, aliasName⟩ := source
  cases aliasName with
  | none => exact ⟨[], Clear.nil, by simp [text]⟩
  | some shown =>
      refine ⟨" AS ".toList ++ shown.toList, Clear.space _, ?_⟩
      simp [text]

theorem closed_of_last (front : List Char) {last : Char}
    (visible : Text.isAsciiBlank last = false) (other : last.toLower ∉ ['m', 'n', 'o', 'e']) :
    Closed (front ++ [last]) := by
  intro before
  rw [← List.append_assoc]
  exact separate_of_last visible other

theorem JoinKind.text_split (kind : JoinKind) : ∃ front, Closed front ∧
    (" " ++ kind.text).toList = front ++ " JOIN".toList := by
  cases kind with
  | inner => exact ⟨" INNE".toList ++ ['R'], closed_of_last _ (by decide) (by decide), rfl⟩
  | left => exact ⟨" LEF".toList ++ ['T'], closed_of_last _ (by decide) (by decide), rfl⟩
  | right => exact ⟨" RIGH".toList ++ ['T'], closed_of_last _ (by decide) (by decide), rfl⟩
  | full => exact ⟨" FUL".toList ++ ['L'], closed_of_last _ (by decide) (by decide), rfl⟩
  | cross => exact ⟨" CROS".toList ++ ['S'], closed_of_last _ (by decide) (by decide), rfl⟩

theorem Join.text_split (join : Join) : ∃ kind behind, Closed kind ∧ Clear behind ∧
    join.text.toList =
      kind ++ ' ' :: ("JOIN".toList ++ ' ' :: (join.table.toList ++ behind)) := by
  obtain ⟨kind, table, condition⟩ := join
  obtain ⟨front, closed, written⟩ := kind.text_split
  cases condition with
  | none =>
      refine ⟨front, [], closed, Clear.nil, ?_⟩
      unfold text
      rw [String.toList_append, String.toList_append, String.toList_append, written]
      simp
  | some condition =>
      refine ⟨front, " ON ".toList ++ condition.toList, closed, Clear.space _, ?_⟩
      unfold text
      rw [String.toList_append, String.toList_append, String.toList_append, written]
      simp

theorem clear_joins (joins : List Join) : Clear (String.join (joins.map Join.text)).toList := by
  cases joins with
  | nil => exact Clear.nil
  | cons join rest =>
      obtain ⟨behind, starts⟩ : ∃ behind, join.text.toList = ' ' :: behind := by
        have first : (" " ++ join.kind.text).toList = ' ' :: join.kind.text.toList := by simp
        unfold Join.text
        rw [String.append_assoc, String.append_assoc, String.toList_append, first]
        exact ⟨_, rfl⟩
      rw [List.map_cons, String.join_cons, String.toList_append, starts]
      exact Clear.space _

theorem found_in_source (lead : List Char) {dialect : Dialect} {frame : Clauses} {table : String}
    (plain : IsPlainName table) (names : frame.Names dialect table) {front rest : List Char}
    (closed : Closed front) (clear : Clear rest) {sql : String}
    (written : sql.toList = lead ++ (front ++ (frame.sourceText.toList ++ rest))) :
    tableLabel table ∈ referencedTables sql := by
  rw [frame.sourceText_eq, String.toList_append] at written
  rcases names with ⟨source, found, accepted⟩ | ⟨join, member, accepted⟩
  · obtain ⟨behind, own, split⟩ := source.text_split
    rw [found, Option.elim_some, split] at written
    refine found_behind plain accepted (closed lead) List.mem_cons_self
      ((own.append (clear_joins frame.joins)).append clear) ?_
    rw [written]
    simp
  · obtain ⟨early, late, joins⟩ := List.append_of_mem member
    obtain ⟨kind, behind, closes, own, split⟩ := join.text_split
    have listed : (String.join (frame.joins.map Join.text)).toList =
        (String.join (early.map Join.text)).toList ++
          (join.text.toList ++ (String.join (late.map Join.text)).toList) := by
      rw [joins, List.map_append, List.map_cons, String.join_append, String.join_cons,
        String.toList_append, String.toList_append]
    rw [listed, split] at written
    let source := (frame.source.elim "" Source.text).toList
    let before := lead ++ (front ++ (source ++ (String.join (early.map Join.text)).toList))
    refine found_behind plain accepted (closes before)
      (List.mem_cons_of_mem _ List.mem_cons_self)
      ((own.append (clear_joins late)).append clear) ?_
    rw [written]
    simp only [before, source, List.append_assoc, List.cons_append]

theorem commaSeparated_ends {columns : List String} {last : String} :
    columns.getLast? = some last →
      ∃ front, (commaSeparated columns).toList = front ++ last.toList := by
  induction columns with
  | nil => nofun
  | cons column rest ih =>
      intro ending
      unfold commaSeparated at ih ⊢
      cases rest with
      | nil =>
          have same : column = last := Option.some.inj ending
          exact ⟨[], by rw [String.intercalate_singleton, same, List.nil_append]⟩
      | cons next more =>
          obtain ⟨front, split⟩ := ih ending
          refine ⟨(column ++ ", ").toList ++ front, ?_⟩
          rw [String.intercalate_cons_cons, String.toList_append, split, List.append_assoc]

theorem projection_closed {frame : Clauses}
    (closed : ∀ last, frame.columns.getLast? = some last → Closed last.toList) :
    Closed frame.projectionText.toList := by
  unfold Clauses.projectionText
  rw [String.toList_append]
  apply Closed.append
  cases ending : frame.columns.getLast? with
  | none =>
      have empty : frame.columns = [] := List.getLast?_eq_none_iff.mp ending
      rw [empty]
      exact closed_of_last [] (by decide) (by decide)
  | some last =>
      have some : frame.columns.isEmpty = false := by
        cases columns : frame.columns with
        | nil =>
            rw [columns] at ending
            cases ending
        | cons first rest => rfl
      obtain ⟨front, split⟩ := commaSeparated_ends ending
      rw [some, if_neg Bool.false_ne_true, split]
      exact (closed last ending).append front

theorem projection_closed_of_quoted {frame : Clauses}
    (quoted : ∀ column ∈ frame.columns, EndsQuoted column.toList) :
    Closed frame.projectionText.toList :=
  projection_closed (fun last ending => (quoted last (List.mem_of_getLast? ending)).closed)

theorem projection_closed_of_single {frame : Clauses} {column : String}
    (single : frame.columns = [column]) (closed : Closed column.toList) :
    Closed frame.projectionText.toList := by
  apply projection_closed
  intro last ending
  rw [single] at ending
  have same : column = last := Option.some.inj ending
  rw [← same]
  exact closed

/-! ### Whole queries -/

namespace Draft

variable {profile : Profile}

theorem clear_conditions (keyword : String) (conditions : List Condition) (number : Nat) :
    Clear (Piece.writeFrom profile.placeholder number (conditionPieces keyword conditions)) := by
  unfold conditionPieces
  split
  · exact Clear.nil
  · rw [Piece.writeFrom, String.toList_append, String.toList_append]
    exact Clear.space _

theorem clear_groupText (frame : Clauses) : Clear frame.groupText.toList := by
  unfold Clauses.groupText
  split
  · exact Clear.nil
  · rw [String.toList_append]
    exact Clear.space _

theorem clear_orderText (frame : Clauses) : Clear frame.orderText.toList := by
  unfold Clauses.orderText
  split
  · exact Clear.nil
  · rw [String.toList_append]
    exact Clear.space _

theorem clear_pagingText (frame : Clauses) : Clear (frame.pagingText profile).toList := by
  unfold Clauses.pagingText
  dsimp only
  split
  · exact Clear.nil
  · rw [String.toList_append]
    exact Clear.space _

theorem clear_tail (draft : Draft) (number : Nat) :
    Clear (Piece.writeFrom profile.placeholder number (draft.tailPieces profile)) := by
  unfold tailPieces
  rw [List.cons_append, Piece.writeFrom, Piece.writeFrom_append]
  refine (clear_groupText draft.frame).append ((clear_conditions _ _ _).append ?_)
  rw [Piece.writeFrom, String.toList_append]
  exact ((clear_orderText _).append (clear_pagingText _)).append Clear.nil

theorem text_of_idle (profile : Profile) {draft : Draft} (idle : draft.isWrite = false) :
    ∃ rest, Clear rest ∧ (Piece.statement profile (draft.pieces profile)).sql.toList =
      draft.frame.projectionText.toList ++ (draft.frame.sourceText.toList ++ rest) := by
  let behind := conditionPieces "WHERE" draft.wheres ++ draft.tailPieces profile
  refine ⟨Piece.writeFrom profile.placeholder 1 behind, ?_, ?_⟩
  · rw [Piece.writeFrom_append]
    exact (clear_conditions _ _ _).append (clear_tail draft _)
  · rw [pieces_of_idle idle, Piece.statement, String.toList_ofList, List.cons_append,
      Piece.writeFrom, headText, String.toList_append, List.append_assoc]

theorem requireSelect_idle {draft : Draft} {terminal : String}
    (accepted : draft.requireSelect terminal = .ok ()) : draft.isWrite = false := by
  unfold requireSelect at accepted
  cases write : draft.isWrite with
  | false => rfl
  | true =>
      rw [write, Bool.or_true] at accepted
      cases accepted

/-- Every table of a query without pending write is found in its text, which may stand between
others. -/
theorem found_in_query (profile : Profile) (lead rest : List Char) {dialect : Dialect}
    {draft : Draft} {table : String}
    (plain : IsPlainName table) (names : draft.frame.Names dialect table)
    (idle : draft.isWrite = false) (closed : Closed draft.frame.projectionText.toList)
    (clear : Clear rest) {sql : String}
    (written : sql.toList =
      lead ++ ((Piece.statement profile (draft.pieces profile)).sql.toList ++ rest)) :
    tableLabel table ∈ referencedTables sql := by
  obtain ⟨behind, own, text⟩ := text_of_idle profile idle
  refine found_in_source lead plain names closed (own.append clear) ?_
  rw [written, text]
  simp only [List.append_assoc]

end Draft

def Request.Plain : Request → Prop
  | .column name => IsPlainName name
  | .pair value key => IsPlainName value ∧ IsPlainName key
  | _ => True

namespace Draft

variable {dialect : Dialect} {draft : Draft} {table : String}

theorem found_in_reframed (profile : Profile) (plain : IsPlainName table)
    (names : draft.frame.Names dialect table) (idle : draft.isWrite = false)
    (closed : Closed draft.frame.projectionText.toList) :
    tableLabel table ∈ referencedTables (Piece.statement profile (draft.pieces profile)).sql := by
  refine found_in_query profile [] [] plain names idle closed Clear.nil ?_
  rw [List.nil_append, List.append_nil]

theorem found_in_aggregate {profile : Profile} {expression : String} {pieces : List Piece}
    (plain : IsPlainName table) (names : draft.frame.Names dialect table)
    (quoted : ∀ column ∈ draft.frame.columns, EndsQuoted column.toList)
    (made : draft.aggregatePieces profile expression = .ok pieces) :
    tableLabel table ∈ referencedTables (Piece.statement profile pieces).sql := by
  obtain ⟨_, accepted, further⟩ := exists_of_bind_ok made
  have idle := requireSelect_idle accepted
  dsimp only at further
  split at further
  · cases further
    refine found_in_reframed _ plain names idle (projection_closed_of_single rfl ?_)
    rw [String.toList_append]
    exact Closed.append _ separate_aggregate
  · cases further
    rw [Piece.statement_between]
    have closing : Clear ") AS aggregate_table".toList := by
      intro char head
      cases head
      exact .inr rfl
    let inner := draft.reframe fun frame =>
      { frame with orders := [], limit := none, offset := none }
    have named : inner.frame.Names dialect table := names
    refine found_in_query profile ("SELECT " ++ (expression ++ " AS " ++ aggregateAlias) ++
      " FROM (").toList ") AS aggregate_table".toList plain named idle
      (projection_closed_of_quoted quoted) closing ?_
    rw [String.toList_append, String.toList_append, List.append_assoc]

theorem found_in_request {request : Request} {pieces : List Piece} (plain : IsPlainName table)
    (names : draft.frame.Names dialect table) (idle : draft.isWrite = false)
    (quoted : ∀ column ∈ draft.frame.columns, EndsQuoted column.toList) (own : request.Plain)
    (made : draft.piecesFor dialect.profile request = .ok pieces) :
    tableLabel table ∈ referencedTables (Piece.statement dialect.profile pieces).sql := by
  have closed : Closed draft.frame.projectionText.toList := projection_closed_of_quoted quoted
  cases request with
  | whole =>
      cases made
      exact found_in_reframed _ plain names idle closed
  | limited count =>
      cases made
      exact found_in_reframed _ plain names idle closed
  | page offset size =>
      cases made
      exact found_in_reframed _ plain names idle closed
  | count => exact found_in_aggregate plain names quoted made
  | aggregate function column =>
      obtain ⟨rendered, _, further⟩ := exists_of_bind_ok made
      exact found_in_aggregate plain names quoted further
  | presence =>
      obtain ⟨_, _, further⟩ := exists_of_bind_ok made
      cases further
      refine found_in_reframed _ plain names idle (projection_closed_of_single rfl ?_)
      exact closed_of_last "1 AS presen".toList (by decide) (by decide)
  | column name =>
      obtain ⟨_, _, further⟩ := exists_of_bind_ok made
      obtain ⟨rendered, read, same⟩ := exists_of_bind_ok further
      cases same
      refine found_in_reframed _ plain names idle (projection_closed_of_quoted ?_)
      intro column member
      cases List.mem_singleton.mp member
      exact column_endsQuoted own read
  | pair value key =>
      obtain ⟨_, _, further⟩ := exists_of_bind_ok made
      obtain ⟨first, readFirst, further⟩ := exists_of_bind_ok further
      obtain ⟨second, readSecond, same⟩ := exists_of_bind_ok further
      cases same
      refine found_in_reframed _ plain names idle (projection_closed_of_quoted ?_)
      intro column member
      rcases List.mem_cons.mp member with rfl | other
      · exact column_endsQuoted own.1 readFirst
      · cases List.mem_singleton.mp other
        exact column_endsQuoted own.2 readSecond
  | cursor column after limit =>
      obtain ⟨rendered, _, same⟩ := exists_of_bind_ok made
      cases same
      obtain ⟨frame, write⟩ := draft.behindCursor_frame rendered after
      let moved := (draft.behindCursor rendered after).reframe fun frame =>
        { frame with
          orders := [⟨rendered, .ascending, false⟩], limit := some (limit + 1), offset := none }
      have named : moved.frame.Names dialect table := by
        change (draft.behindCursor rendered after).frame.Names dialect table
        rw [frame]
        exact names
      have still : moved.isWrite = false := write.trans idle
      have ends : Closed moved.frame.projectionText.toList := by
        change Closed (draft.behindCursor rendered after).frame.projectionText.toList
        rw [frame]
        exact closed
      exact found_in_reframed _ plain named still ends

end Draft

end BoundQuery
