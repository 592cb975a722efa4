import BoundQuery.Proofs.Legibility

/-!
What a cursor adds to a query. The condition on its column holds together with all the conditions of
the query, also where those are joined by `OR`.
-/

set_option autoImplicit false

namespace BoundQuery

theorem trimChars_after_blank (chars : List Char) :
    Text.trimChars (' ' :: chars) = Text.trimChars chars := by
  have blank : [' '].all Text.isBlank = true := by decide
  exact trimChars_behind (List.all_eq_true.mp blank) chars

theorem Scope.value_narrowed {scope : Scope} (valuation : Valuation)
    (closed : scope.between = false) (undivided : scope.disjunction = false)
    (chars : List Char) :
    ((scope.joined valuation .and).add chars).value valuation =
      (scope.value valuation &&
        valuation.operand (scope.position + 1) (Text.trimChars chars)) := by
  have text : (chars.reverse ++ [' ']).reverse = ' ' :: chars := by simp
  rw [scope.joined_and valuation closed]
  unfold value add
  rw [undivided, Bool.false_or, Bool.false_or]
  unfold operandValue
  dsimp only
  rw [text, trimChars_after_blank]

variable {own cursor : List Char}

theorem Leads.read_narrowed {valuation : Valuation} {after : Scope}
    (leads : Leads valuation {} own after) (closed : after.between = false)
    (undivided : after.disjunction = false) (phrase : Phrase cursor) :
    readCondition valuation (own ++ ((" " ++ Combinator.and.text ++ " ").toList ++ cursor)) =
      some (after.value valuation &&
        valuation.operand (after.position + 1) (Text.trimChars cursor), after.position + 2) := by
  have whole := leads.combine .and (phrase valuation (after.joined valuation .and))
  rw [whole.readCondition_eq, after.value_narrowed valuation closed undivided]
  rw [after.joined_and valuation closed]
  rfl

/-- The condition holds where the former one does, if there is one, and this operand behind it. The
former one is read, not valued as a whole. -/
def Narrows (valuation : Valuation) (former : Option (List Char)) (text operand : List Char) :
    Prop :=
  match former with
  | none => readCondition valuation text = some (valuation.operand 0 operand, 1)
  | some own =>
      valuation.enclosed 0 own = none →
        ∃ value count, readCondition valuation own = some (value, count) ∧
          readCondition valuation text = some (value && valuation.operand count operand, count + 1)

theorem narrows_nothing (valuation : Valuation) (phrase : Phrase cursor) :
    Narrows valuation none cursor (Text.trimChars cursor) := by
  unfold Narrows
  rw [(phrase valuation {}).readCondition_eq]
  simp [Scope.value, Scope.operandValue, Scope.add]

theorem narrows_undivided (valuation : Valuation) (whole : Undivided own)
    (phrase : Phrase cursor) :
    Narrows valuation (some own) (own ++ ((" " ++ Combinator.and.text ++ " ").toList ++ cursor))
      (Text.trimChars cursor) := by
  intro _
  obtain ⟨after, leads, closed, undivided⟩ := whole valuation {} rfl
  exact ⟨_, _, leads.readCondition_eq, leads.read_narrowed closed undivided phrase⟩

theorem narrows_enclosed (valuation : Valuation) (whole : Closes own) (phrase : Phrase cursor) :
    Narrows valuation (some own)
      (('(' :: own ++ [')']) ++ ((" " ++ Combinator.and.text ++ " ").toList ++ cursor))
      (Text.trimChars cursor) := by
  intro unvalued
  obtain ⟨after, leads, _⟩ := whole valuation {} rfl
  have text : after.text.reverse = own := by
    rw [leads.text_eq, List.append_nil, List.reverse_reverse]
  have value : (({} : Scope).enclose valuation after).value valuation = after.value valuation := by
    change (false || (true && (valuation.enclosed 0 after.text.reverse).getD
      (after.value valuation))) = _
    rw [text, unvalued]
    rfl
  have narrowed := (leads.enclosed {}).read_narrowed rfl rfl phrase
  rw [value] at narrowed
  exact ⟨_, _, leads.readCondition_eq, narrowed⟩

/-! ### The conditions of a query behind a cursor -/

namespace Piece

theorem values_enclosed (pieces : List Piece) : values (enclosed pieces) = values pieces := by
  change values (pieces ++ [.sql ")"]) = values pieces
  rw [values_append]
  exact List.append_nil _

theorem values_concat (conditions : List Condition) (last : Condition) :
    values (chain (conditions ++ [last])) = values (chain conditions) ++ values last.pieces := by
  cases conditions with
  | nil => simp [chain, values]
  | cons first front =>
      rw [List.cons_append, chain_concat, values_append]
      rfl

theorem values_single (condition : Condition) :
    values (chain [condition]) = values condition.pieces := by
  simp [chain]

end Piece

namespace Draft

variable {profile : Profile} {draft : Draft}

def whereText (profile : Profile) (draft : Draft) : Option (List Char) :=
  match draft.wheres with
  | [] => none
  | conditions => some (Piece.writeFrom profile.placeholder 1 (Piece.chain conditions))

theorem whereText_cons {first : Condition} {rest : List Condition}
    (conditions : draft.wheres = first :: rest) :
    draft.whereText profile =
      some (Piece.writeFrom profile.placeholder 1 (Piece.chain (first :: rest))) := by
  unfold whereText
  rw [conditions]

theorem whereText_nil (none : draft.wheres = []) : draft.whereText profile = .none := by
  unfold whereText
  rw [none]

def Divided (draft : Draft) : Bool :=
  (draft.wheres.drop 1).any (fun condition => condition.combinator == .or)

theorem foldWheres_divided (divided : draft.Divided = true) :
    draft.foldWheres.wheres = [⟨.and, Piece.enclosed (Piece.chain draft.wheres)⟩] := by
  unfold Divided at divided
  unfold foldWheres
  rw [if_pos divided]

theorem foldWheres_undivided (undivided : draft.Divided = false) : draft.foldWheres = draft := by
  unfold Divided at undivided
  unfold foldWheres
  rw [undivided, if_neg Bool.false_ne_true]

theorem foldWheres_values (draft : Draft) :
    Piece.values (Piece.chain draft.foldWheres.wheres) =
      Piece.values (Piece.chain draft.wheres) := by
  cases divided : draft.Divided with
  | true => rw [foldWheres_divided divided, Piece.values_single, Piece.values_enclosed]
  | false => rw [foldWheres_undivided divided]

def whereCount (draft : Draft) : Nat :=
  (Piece.values (Piece.chain draft.wheres)).length

theorem behindCursor_text {column : String} {value : Value} {first : Condition}
    {rest : List Condition} (conditions : draft.foldWheres.wheres = first :: rest) :
    (draft.behindCursor column (some value)).whereText profile =
      some (Piece.writeFrom profile.placeholder 1 (Piece.chain (first :: rest)) ++
        ((" " ++ Combinator.and.text ++ " ").toList ++
          (column ++ " > " ++ profile.placeholder (draft.whereCount + 1)).toList)) := by
  let last : Condition := ⟨.and, [.sql (column ++ " > "), .slot value]⟩
  have narrowed : (draft.behindCursor column (some value)).wheres =
      first :: (rest ++ [last]) := by
    change draft.foldWheres.wheres ++ [last] = _
    rw [conditions, List.cons_append]
  have number : (Piece.values (Piece.chain (first :: rest))).length = draft.whereCount := by
    rw [← conditions, foldWheres_values]
    rfl
  rw [whereText_cons narrowed, Piece.writeFrom_concat, number, Nat.add_comm 1]
  simp [last, Piece.writeFrom]

theorem behindCursor_text_nil {column : String} {value : Value} (none : draft.wheres = []) :
    (draft.behindCursor column (some value)).whereText profile =
      some (column ++ " > " ++ profile.placeholder (draft.whereCount + 1)).toList := by
  let last : Condition := ⟨.and, [.sql (column ++ " > "), .slot value]⟩
  have idle : draft.Divided = false := by
    unfold Divided
    rw [none]
    rfl
  have narrowed : (draft.behindCursor column (some value)).wheres = [last] := by
    change draft.foldWheres.wheres ++ [last] = _
    rw [foldWheres_undivided idle, none, List.nil_append]
  have number : draft.whereCount = 0 := by
    unfold whereCount
    rw [none]
    rfl
  rw [whereText_cons narrowed, Piece.writeFrom_single, number]
  simp [last, Piece.writeFrom]

theorem and_of_undivided {first : Condition} {rest : List Condition}
    (conditions : draft.wheres = first :: rest) (undivided : draft.Divided = false) :
    ∀ condition ∈ rest, condition.combinator = .and := by
  unfold Divided at undivided
  rw [conditions, List.drop_one, List.tail_cons, List.any_eq_false] at undivided
  intro condition member
  have other := undivided condition member
  cases combinator : condition.combinator with
  | and => rfl
  | or =>
      rw [combinator] at other
      exact absurd rfl other

/-- The cursor's condition applies to all the others, however these are joined. -/
theorem behindCursor_narrows (readable : profile.Readable) (legible : draft.Legible profile)
    {column : String} (phrase : Phrase column.toList) (value : Value) :
    ∃ text, (draft.behindCursor column (some value)).whereText profile = some text ∧
      ∀ valuation, Narrows valuation (draft.whereText profile) text
        (Text.trimChars (column ++ " > " ++
          profile.placeholder (draft.whereCount + 1)).toList) := by
  have cursor : Phrase (column ++ " > " ++
      profile.placeholder (draft.whereCount + 1)).toList := by
    have whole := Condition.phrase_compared phrase .greater
      (readable.placeholder (draft.whereCount + 1))
    rw [String.toList_append, String.toList_append, List.append_assoc]
    exact whole
  unfold Legible at legible
  cases conditions : draft.wheres with
  | nil =>
      rw [whereText_nil conditions]
      refine ⟨_, behindCursor_text_nil conditions, ?_⟩
      intro valuation
      exact narrows_nothing valuation cursor
  | cons first rest =>
      rw [conditions] at legible
      obtain ⟨own, others⟩ := List.forall_mem_cons.mp legible
      rw [whereText_cons conditions]
      cases divided : draft.Divided with
      | true =>
          have folded := foldWheres_divided divided
          refine ⟨_, behindCursor_text folded, ?_⟩
          intro valuation
          rw [Piece.writeFrom_single, Piece.writeFrom_enclosed, conditions]
          exact narrows_enclosed valuation (Piece.closes_chain own others 1) cursor
      | false =>
          have kept := foldWheres_undivided divided
          have same : draft.foldWheres.wheres = first :: rest := by rw [kept, conditions]
          refine ⟨_, behindCursor_text same, ?_⟩
          intro valuation
          have joined : ∀ condition ∈ rest,
              condition.Legible profile ∧ condition.combinator = .and :=
            fun condition member =>
              ⟨others condition member, and_of_undivided conditions divided condition member⟩
          exact narrows_undivided valuation (Piece.undivided_chain own joined 1) cursor

/-- The text of a query has these conditions between its sources and its grouping. -/
def Reads (profile : Profile) (draft : Draft) (conditions : Option (List Char)) (sql : String) :
    Prop :=
  ∃ number, sql.toList =
    draft.frame.projectionText.toList ++ draft.frame.sourceText.toList ++
      (match conditions with
        | none => []
        | some text => " WHERE ".toList ++ text) ++
      draft.frame.groupText.toList ++
      Piece.writeFrom profile.placeholder number (conditionPieces "HAVING" draft.havings) ++
      draft.frame.orderText.toList ++ (draft.frame.pagingText profile).toList

theorem writeFrom_conditions (draft : Draft) :
    Piece.writeFrom profile.placeholder 1 (conditionPieces "WHERE" draft.wheres) =
      match draft.whereText profile with
      | none => []
      | some text => " WHERE ".toList ++ text := by
  cases conditions : draft.wheres with
  | nil =>
      rw [whereText_nil conditions]
      rfl
  | cons first rest =>
      rw [whereText_cons conditions]
      rfl

theorem reads_statement (idle : draft.isWrite = false) :
    draft.Reads profile (draft.whereText profile)
      (Piece.statement profile (draft.pieces profile)).sql := by
  refine ⟨1 + (Piece.values (conditionPieces "WHERE" draft.wheres)).length, ?_⟩
  rw [← writeFrom_conditions, pieces_of_idle idle, Piece.statement, String.toList_ofList,
    List.cons_append, Piece.writeFrom, Piece.writeFrom_append, tailPieces, headText,
    String.toList_append, List.cons_append, Piece.writeFrom, Piece.writeFrom_append]
  simp only [Piece.writeFrom, String.toList_append, List.append_assoc, List.append_nil]

theorem bindings_behindCursor {narrowed : Draft} {column : String} {value : Value}
    (idle : narrowed.isWrite = false)
    (conditions : narrowed.wheres = (draft.behindCursor column (some value)).wheres) :
    (Piece.statement profile (narrowed.pieces profile)).bindings[draft.whereCount]? =
      some value := by
  have chained : Piece.values (Piece.chain narrowed.wheres) =
      Piece.values (Piece.chain draft.wheres) ++ [value] := by
    have split := Piece.values_concat draft.foldWheres.wheres
      ⟨.and, [.sql (column ++ " > "), .slot value]⟩
    rw [foldWheres_values] at split
    rw [conditions]
    exact split
  have clause : Piece.values (conditionPieces "WHERE" narrowed.wheres) =
      Piece.values (Piece.chain narrowed.wheres) := by
    unfold conditionPieces
    split
    · rename_i empty
      rw [List.isEmpty_iff.mp empty]
      rfl
    · rfl
  have bound : (Piece.statement profile (narrowed.pieces profile)).bindings =
      Piece.values (Piece.chain draft.wheres) ++
        ([value] ++ Piece.values (narrowed.tailPieces profile)) := by
    rw [pieces_of_idle idle, ← List.append_assoc, ← chained, ← clause, ← Piece.values_append]
    rfl
  unfold whereCount
  rw [bound, List.getElem?_append_right (Nat.le_refl _), Nat.sub_self]
  rfl

end Draft

theorem column_as_written {profile : Profile} {name rendered : String} (other : ¬IsPlainName name)
    (accepted : profile.column name = .ok rendered) :
    rendered.toList = Text.trimChars name.toList := by
  obtain ⟨identifier, read, same⟩ := exists_of_bind_ok accepted
  obtain ⟨_, _, own | ⟨_, _, rfl⟩⟩ := Identifier.read_eq_ok_iff.mp read
  · exact absurd own.1 other
  · rw [← Except.ok.inj same]
    exact String.toList_ofList

theorem Profile.Readable.phrase_column {profile : Profile} (readable : profile.Readable)
    {column rendered : String} (accepted : profile.column column = .ok rendered)
    (operand : IsPlainName column ∨ Phrase (Text.trimChars column.toList)) :
    Phrase rendered.toList := by
  by_cases plain : IsPlainName column
  · exact readable.column column rendered plain accepted
  · rw [column_as_written plain accepted]
    exact operand.resolve_left plain

/-- Nothing but the statement of the request is sent for a page behind a cursor. -/
theorem Engine.cursorPaginate_sends {World : Type} (engine : Engine World) {builder : Builder}
    {column : String} {cursor : Option Value} {limit : Int} (positive : 1 ≤ limit)
    {page : Statement} (made : builder.statementOf (.cursor column cursor limit.toNat) = .ok page) :
    engine.cursorPaginate builder column cursor limit =
      cursorPage column limit.toNat <$> engine.fetchDerived builder page true := by
  have sent : engine.read builder (.cursor column cursor limit.toNat) =
      engine.fetchDerived builder page true := by
    unfold read
    rw [made]
    rfl
  rw [cursorPaginate_eq_read engine builder column cursor limit positive, sent]

/-- The statement that is sent for a cursor has a condition that holds exactly where the conditions
of the builder's own statement do and the column is behind the cursor. -/
theorem cursor_applies_to_all_conditions (profile : Profile) (readable : profile.Readable)
    (cacheable : Bool) (calls : List Call) (builder : Builder) (legible : Call.AllLegible calls)
    (reached : ({ profile := profile, cacheable := cacheable } : Builder).applyAll calls =
      .ok builder)
    (query : builder.clauses.raw = none ∧ builder.clauses.isWrite = false)
    (column rendered : String) (accepted : profile.column column = .ok rendered)
    (operand : IsPlainName column ∨ Phrase (Text.trimChars column.toList))
    (value : Value) (limit : Int) (positive : 1 ≤ limit) :
    ∃ whole page own text number,
      builder.statementOf .whole = .ok whole ∧
      builder.clauses.draft.Reads profile own whole.sql ∧
      (∀ (World : Type) (engine : Engine World),
        engine.cursorPaginate builder column (some value) limit =
          Engine.cursorPage column limit.toNat <$> engine.fetchDerived builder page true) ∧
      (builder.cursorClauses rendered (some value) limit.toNat).draft.Reads profile (some text)
        page.sql ∧
      page.bindings[number]? = some value ∧
      ∀ valuation, Narrows valuation own text (Text.trimChars
        (rendered ++ " > " ++ profile.placeholder (number + 1)).toList) := by
  obtain ⟨kind, aligned, meant⟩ := Builder.reached_draft reached
  obtain ⟨unset, idle⟩ := query
  let draft := builder.clauses.draft
  let narrowed := (builder.cursorClauses rendered (some value) limit.toNat).draft
  have empty : ({} : Draft).Legible profile := fun condition member => by cases member
  have conditions : draft.Legible profile :=
    Draft.applyAll_legible readable calls legible empty meant
  have phrase := readable.phrase_column accepted operand
  obtain ⟨text, behind, narrows⟩ := Draft.behindCursor_narrows readable conditions phrase value
  have resting : draft.isWrite = false := by rw [Clauses.draft_isWrite, idle]
  have reframed : narrowed = _ := Builder.draft_cursorClauses aligned rendered (some value) _
  have still : narrowed.isWrite = false := by
    rw [reframed]
    exact (draft.behindCursor_frame rendered (some value)).2.trans resting
  have whole : builder.statementOf .whole =
      .ok (Piece.statement profile (draft.pieces profile)) := by
    rw [Builder.statementOf_eq aligned unset, kind]
    rfl
  have page : builder.statementOf (.cursor column (some value) limit.toNat) =
      .ok (Piece.statement profile (narrowed.pieces profile)) := by
    have compiled := Builder.cursorClauses_compile aligned unset rendered (some value) limit.toNat
    rw [kind] at compiled
    rw [Builder.statementOf, kind, accepted]
    exact compiled
  have own : narrowed.wheres = (draft.behindCursor rendered (some value)).wheres := by
    rw [reframed]
    rfl
  have read : narrowed.Reads profile (narrowed.whereText profile)
      (Piece.statement profile (narrowed.pieces profile)).sql := Draft.reads_statement still
  have shown : narrowed.whereText profile = some text := by
    unfold Draft.whereText at behind ⊢
    rw [own]
    exact behind
  rw [shown] at read
  refine ⟨_, _, _, text, draft.whereCount, whole, Draft.reads_statement resting, ?_, read,
    Draft.bindings_behindCursor still own, narrows⟩
  exact fun World engine => engine.cursorPaginate_sends positive page

def dividedQuery : List Call :=
  [.readFrom "users", .compare .and "role" "=" (.string "admin"),
    .whereRaw .or "score > ? OR (vip AND NOT banned)" [.int 9],
    .group .or [.between .and false "age" (.int 18) (.int 65), .nullTest .or true "left_at"]]

theorem cursor_applies_to_divided_query :
    ∃ builder : Builder,
      ({ profile := Dialect.postgresql.profile } : Builder).applyAll dividedQuery = .ok builder ∧
      ∃ (whole page : Statement) (own : Option (List Char)) (text : List Char) (number : Nat),
        builder.statementOf .whole = .ok whole ∧
        builder.clauses.draft.Reads Dialect.postgresql.profile own whole.sql ∧
        (builder.cursorClauses "\"id\"" (some (.int 7)) 20).draft.Reads
          Dialect.postgresql.profile (some text) page.sql ∧
        page.bindings[number]? = some (.int 7) ∧
        ∀ valuation, Narrows valuation own text (Text.trimChars
          ("\"id\"" ++ " > " ++ Dialect.postgresql.profile.placeholder (number + 1)).toList) := by
  have query : ((({ profile := Dialect.postgresql.profile } : Builder).applyAll
      dividedQuery).map (fun builder =>
        (builder.clauses.raw.isNone, builder.clauses.isWrite))).toOption = some (true, false) := by
    decide +kernel
  have plain : ∀ column ∈ ["role", "age", "left_at", "id"], IsPlainName column := by
    unfold IsPlainName
    decide
  have legible : Call.AllLegible dividedQuery := by
    simp only [dividedQuery, Call.AllLegible, Call.Legible]
    exact ⟨trivial, plain _ (by decide), by decide, ⟨plain _ (by decide), plain _ (by decide),
      trivial⟩, trivial⟩
  obtain ⟨builder, reached, shape⟩ := exists_of_map_ok (ok_of_toOption query)
  obtain ⟨unset, idle⟩ := Prod.mk.inj shape
  obtain ⟨whole, page, own, text, number, made, read, _, behind, bound, narrows⟩ :=
    cursor_applies_to_all_conditions Dialect.postgresql.profile Dialect.postgresql.readable
      false dividedQuery builder legible reached ⟨Option.isNone_iff_eq_none.mp unset, idle⟩
      "id" "\"id\"" rfl (.inl (plain _ (by decide))) (.int 7) 20 (by decide)
  exact ⟨builder, reached, whole, page, own, text, number, made, read, behind, bound, narrows⟩

end BoundQuery
