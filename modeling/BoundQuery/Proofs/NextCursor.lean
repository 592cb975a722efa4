import BoundQuery.Proofs.CursorScope
import BoundQuery.Proofs.Reading
import BoundQuery.Rehearsal

/-!
Where the next page starts. A page with more behind it passes on the value of its last row, and the
comparison of the next page is with that value. It is the stored one, except that integers past the
signed range come as the nearest floating-point number.
-/

set_option autoImplicit false

namespace BoundQuery

/-- Numbers as rows hold them: integers of 64 bits, with a sign or without, and finite floats. -/
def Number.Held : Number → Prop
  | .int value => leastSigned ≤ value ∧ value ≤ greatestWord
  | .float value => Decimal.isFinite value = true

def Json.Held : Json → Prop
  | .number value => value.Held
  | _ => True

/-- An integer that needs all 64 bits. -/
def Json.PastSigned (json : Json) : Prop :=
  ∃ value, json = .number (.int value) ∧ greatestSigned < value

namespace Value

theorem ofJson_signed {value : Int} (fits : fitsSigned value = true) :
    ofJson (.number (.int value)) = .int value := by
  rw [ofJson, if_pos fits]

theorem ofJson_past {value : Int} (past : greatestSigned < value) :
    ofJson (.number (.int value)) = .float (Decimal.nearest false value.toNat 0) := by
  have outside : ¬fitsSigned value = true := by
    unfold fitsSigned
    rw [Bool.and_eq_true, decide_eq_true_iff, decide_eq_true_iff]
    omega
  have positive : 0 ≤ value := by
    unfold greatestSigned at past
    omega
  have plus : decide (value < 0) = false := decide_eq_false (Int.not_lt.mpr positive)
  have same : value.natAbs = value.toNat := by omega
  rw [ofJson, if_neg outside, plus, same]

theorem toJson_float_ne_int (number : Float) (value : Int) :
    (Value.float number).toJson ≠ .number (.int value) := by
  rw [toJson]
  intro same
  split at same
  · cases same
  · cases same

/-- What a row holds is read without loss unless it needs all 64 bits. -/
theorem toJson_ofJson_iff {json : Json} (held : json.Held) :
    (ofJson json).toJson = json ↔ ¬json.PastSigned := by
  cases json with
  | number number =>
      cases number with
      | int value =>
          by_cases past : greatestSigned < value
          · rw [ofJson_past past]
            exact iff_of_false (toJson_float_ne_int _ value) (not_not.mpr ⟨value, rfl, past⟩)
          · have fits : fitsSigned value = true := by
              unfold fitsSigned
              rw [Bool.and_eq_true, decide_eq_true_iff, decide_eq_true_iff]
              exact ⟨held.1, Int.not_lt.mp past⟩
            rw [ofJson_signed fits]
            refine iff_of_true rfl ?_
            rintro ⟨_, same, beyond⟩
            cases same
            exact past beyond
      | float value =>
          have finite : Decimal.isFinite value = true := held
          refine iff_of_true ?_ (by rintro ⟨_, same, _⟩; cases same)
          rw [ofJson, toJson, if_pos finite]
  | null => exact iff_of_true rfl (by rintro ⟨_, same, _⟩; cases same)
  | bool value => exact iff_of_true rfl (by rintro ⟨_, same, _⟩; cases same)
  | string text => exact iff_of_true rfl (by rintro ⟨_, same, _⟩; cases same)
  | array items => exact iff_of_true rfl (by rintro ⟨_, same, _⟩; cases same)
  | object members => exact iff_of_true rfl (by rintro ⟨_, same, _⟩; cases same)

end Value

namespace Engine

variable {World : Type} {engine : Engine World} {builder : Builder} {column : String}
variable {cursor : Option Value} {limit : Int} {session after : Session World} {page : CursorPage}

theorem cursorPaginate_refuses (small : limit < 1) :
    ∃ error, (engine.cursorPaginate builder column cursor limit).run session =
      (.error error, session) := by
  unfold cursorPaginate
  rw [if_pos small]
  exact ⟨_, rfl⟩

theorem page_of_cursorPaginate
    (read : (engine.cursorPaginate builder column cursor limit).run session = (.ok page, after)) :
    1 ≤ limit ∧ ∃ output, page = cursorPage column limit.toNat output := by
  by_cases small : limit < 1
  · obtain ⟨error, refused⟩ : ∃ error, (engine.cursorPaginate builder column cursor limit).run
        session = (.error error, session) := cursorPaginate_refuses small
    rw [refused] at read
    cases read
  · have positive : 1 ≤ limit := Int.not_lt.mp small
    rw [cursorPaginate_eq_read engine builder column cursor limit positive, Action.run_map] at read
    obtain ⟨output, _, same⟩ := exists_of_map_ok (congrArg Prod.fst read)
    exact ⟨positive, output, same.symm⟩

theorem column_of_cursorPaginate
    (read : (engine.cursorPaginate builder column cursor limit).run session = (.ok page, after)) :
    ∃ rendered, builder.profile.column column = .ok rendered := by
  cases accepted : builder.profile.column column with
  | ok rendered => exact ⟨rendered, rfl⟩
  | error error =>
      have positive := (page_of_cursorPaginate read).1
      unfold cursorPaginate at read
      rw [if_neg (by omega), accepted] at read
      cases read

variable {size : Nat} {output : QueryOutput}

theorem cursorPage_ended (ended : (cursorPage column size output).hasMore = false) :
    (cursorPage column size output).nextCursor = none := by
  unfold cursorPage at ended ⊢
  dsimp only at ended ⊢
  rw [if_neg (of_decide_eq_false ended)]

theorem cursorPage_next {last : Row} (more : (cursorPage column size output).hasMore = true)
    (final : (cursorPage column size output).data.getLast? = some last) :
    (cursorPage column size output).nextCursor =
      (last.lookup (resultKey column)).map Value.ofJson := by
  unfold cursorPage at more final ⊢
  dsimp only at more final ⊢
  rw [final, if_pos (of_decide_eq_true more), Option.bind_some]

theorem cursorPage_last? (positive : 1 ≤ size)
    (more : (cursorPage column size output).hasMore = true) :
    ∃ last, (cursorPage column size output).data.getLast? = some last := by
  have longer : size < output.rows.length := of_decide_eq_true more
  refine Option.isSome_iff_exists.mp (List.getLast?_isSome.mpr ?_)
  unfold cursorPage
  rw [← List.length_pos_iff, List.length_take]
  omega

end Engine

theorem Draft.behindCursor_ends (profile : Profile) (draft : Draft) (column : String)
    (value : Value) :
    ∃ front, (draft.behindCursor column (some value)).whereText profile =
      some (front ++ (column ++ " > " ++ profile.placeholder (draft.whereCount + 1)).toList) := by
  cases folded : draft.foldWheres.wheres with
  | cons first rest =>
      rw [behindCursor_text folded, ← List.append_assoc]
      exact ⟨_, rfl⟩
  | nil =>
      have none : draft.wheres = [] := by
        cases divided : draft.Divided with
        | true =>
            rw [foldWheres_divided divided] at folded
            cases folded
        | false => rwa [foldWheres_undivided divided] at folded
      exact ⟨[], behindCursor_text_nil none⟩

namespace Builder

variable {builder : Builder} {column rendered : String}

/-- The statement for a page behind a cursor compares the column with the placeholder at which the
cursor is bound. -/
theorem statementOf_cursor_compares (aligned : builder.clauses.Aligned)
    (unset : builder.clauses.raw = none) (idle : builder.clauses.isWrite = false)
    (accepted : builder.profile.column column = .ok rendered) (value : Value) (size : Nat) :
    ∃ statement front number,
      builder.statementOf (.cursor column (some value) size) = .ok statement ∧
      statement.bindings[number]? = some value ∧
      (builder.cursorClauses rendered (some value) size).draft.Reads builder.profile
        (some (front ++ (rendered ++ " > " ++ builder.profile.placeholder (number + 1)).toList))
        statement.sql := by
  let narrowed := (builder.cursorClauses rendered (some value) size).draft
  have reframed : narrowed = _ := draft_cursorClauses aligned rendered (some value) size
  have own : narrowed.wheres =
      (builder.clauses.draft.behindCursor rendered (some value)).wheres := by
    rw [reframed]
    rfl
  have still : narrowed.isWrite = false := by
    rw [reframed]
    refine (builder.clauses.draft.behindCursor_frame rendered (some value)).2.trans ?_
    rw [Clauses.draft_isWrite, idle]
  have made : builder.statementOf (.cursor column (some value) size) =
      .ok (Piece.statement builder.profile (narrowed.pieces builder.profile)) := by
    rw [statementOf, accepted]
    exact cursorClauses_compile aligned unset rendered (some value) size
  obtain ⟨front, ends⟩ := builder.clauses.draft.behindCursor_ends builder.profile rendered value
  have shown : narrowed.whereText builder.profile =
      (builder.clauses.draft.behindCursor rendered (some value)).whereText builder.profile := by
    unfold Draft.whereText
    rw [own]
  have read : narrowed.Reads builder.profile (narrowed.whereText builder.profile)
      (Piece.statement builder.profile (narrowed.pieces builder.profile)).sql :=
    Draft.reads_statement still
  rw [shown, ends] at read
  exact ⟨_, front, builder.clauses.draft.whereCount, made, Draft.bindings_behindCursor still own,
    read⟩

end Builder

/-- A page with more behind it passes on what its last row holds in the column, and the next page
compares the column with that. The value has the JSON form of the stored one unless that is an
integer past the signed range; such an integer is passed on as the nearest float. -/
theorem next_cursor_is_last_value_within_signed_range {World : Type} (engine : Engine World)
    (builder : Builder) (column : String) (cursor : Option Value) (limit : Int)
    (session after : Session World) (page : CursorPage)
    (read : (engine.cursorPaginate builder column cursor limit).run session = (.ok page, after)) :
    (∀ json : Json, json.Held → ((Value.ofJson json).toJson = json ↔ ¬json.PastSigned)) ∧
      (page.hasMore = false → page.nextCursor = none) ∧
      (page.hasMore = true → ∃ last, page.data.getLast? = some last ∧
        (last.lookup (resultKey column) = none → page.nextCursor = none) ∧
        ∀ json, last.lookup (resultKey column) = some json → json.Held →
          ∃ next, page.nextCursor = some next ∧ (next.toJson = json ↔ ¬json.PastSigned) ∧
            (∀ value, json = .number (.int value) → greatestSigned < value →
              next = .float (Decimal.nearest false value.toNat 0)) ∧
            ∀ calls, engine.query.applyAll calls = .ok builder → builder.clauses.raw = none →
              builder.clauses.isWrite = false →
              ∃ rendered statement front number,
                builder.profile.column column = .ok rendered ∧
                engine.cursorPaginate builder column (some next) limit =
                  Engine.cursorPage column limit.toNat <$>
                    engine.fetchDerived builder statement true ∧
                statement.bindings[number]? = some next ∧
                (builder.cursorClauses rendered (some next) limit.toNat).draft.Reads
                  builder.profile
                  (some (front ++
                    (rendered ++ " > " ++ builder.profile.placeholder (number + 1)).toList))
                  statement.sql) := by
  obtain ⟨positive, output, rfl⟩ := Engine.page_of_cursorPaginate read
  refine ⟨fun json held => Value.toJson_ofJson_iff held, Engine.cursorPage_ended, ?_⟩
  intro more
  have size : 1 ≤ limit.toNat := by omega
  obtain ⟨last, final⟩ := Engine.cursorPage_last? size more
  refine ⟨last, final, fun missing => (Engine.cursorPage_next more final).trans ?_, ?_⟩
  · rw [missing, Option.map_none]
  intro json found held
  have next : _ = some (Value.ofJson json) := (Engine.cursorPage_next more final).trans (by
    rw [found, Option.map_some])
  refine ⟨Value.ofJson json, next, Value.toJson_ofJson_iff held, ?_, ?_⟩
  · rintro value rfl past
    exact Value.ofJson_past past
  · intro calls reached unset idle
    obtain ⟨_, aligned, _⟩ := Builder.reached_draft reached
    obtain ⟨rendered, accepted⟩ := Engine.column_of_cursorPaginate read
    obtain ⟨statement, front, number, made, bound, reads⟩ :=
      Builder.statementOf_cursor_compares aligned unset idle accepted (Value.ofJson json)
        limit.toNat
    exact ⟨rendered, statement, front, number, accepted,
      engine.cursorPaginate_sends positive made, bound, reads⟩

def keysEngine : Engine Rehearsal :=
  { executor := Rehearsal.executor, profile := Dialect.sqlite.profile }

def keyRow (key : Int) : Row :=
  [("id", .number (.int key))]

def keysFrom (key : Int) : Session Rehearsal :=
  ⟨{ replies := [.answer { rows := [keyRow key, keyRow (key + 1)], rowCount := 2 } {}] }, {}⟩

theorem keys_page (key : Int) :
    ∃ builder after, keysEngine.query.applyAll [.readFrom "keys"] = .ok builder ∧
      builder.clauses.raw = none ∧ builder.clauses.isWrite = false ∧
      (keysEngine.cursorPaginate builder "id" none 1).run (keysFrom key) =
        (.ok ⟨[keyRow key], true, some (Value.ofJson (.number (.int key)))⟩, after) :=
  ⟨_, _, rfl, rfl, rfl, rfl⟩

/-- The greatest key of the signed range is passed on as it is, and the next page is compared with
it. -/
theorem greatest_signed_key_is_passed_on :
    ∃ builder after,
      (keysEngine.cursorPaginate builder "id" none 1).run (keysFrom greatestSigned) =
        (.ok ⟨[keyRow greatestSigned], true, some (.int greatestSigned)⟩, after) ∧
      ∃ (rendered : String) (statement : Statement) (front : List Char) (number : Nat),
        statement.bindings[number]? = some (.int greatestSigned) ∧
        (builder.cursorClauses rendered (some (.int greatestSigned)) 1).draft.Reads
          builder.profile
          (some (front ++ (rendered ++ " > " ++ builder.profile.placeholder (number + 1)).toList))
          statement.sql := by
  obtain ⟨builder, after, made, unset, idle, read⟩ := keys_page greatestSigned
  obtain ⟨_, _, onward⟩ := next_cursor_is_last_value_within_signed_range keysEngine builder "id"
    none 1 (keysFrom greatestSigned) after _ read
  obtain ⟨last, final, _, passed⟩ := onward rfl
  cases final
  obtain ⟨next, found, _, _, compared⟩ := passed _ rfl ⟨by decide, by decide⟩
  cases found
  obtain ⟨rendered, statement, front, number, _, _, bound, reads⟩ :=
    compared _ made unset idle
  exact ⟨builder, after, read, rendered, statement, front, number, bound, reads⟩

/-- A key that needs all 64 bits is not what the page passes on. -/
theorem unsigned_key_is_not_passed_on :
    ∃ builder after page, keysEngine.query.applyAll [.readFrom "keys"] = .ok builder ∧
      (keysEngine.cursorPaginate builder "id" none 1).run (keysFrom 0x8000000000000001) =
        (.ok page, after) ∧
      page.hasMore = true ∧
      ∃ last, page.data.getLast? = some last ∧
        last.lookup (resultKey "id") = some (.number (.int 0x8000000000000001)) ∧
        (Json.number (.int 0x8000000000000001)).Held ∧
        ∀ next, page.nextCursor = some next →
          next.toJson ≠ .number (.int 0x8000000000000001) := by
  obtain ⟨builder, after, made, _, _, read⟩ := keys_page 0x8000000000000001
  refine ⟨builder, after, _, made, read, rfl, _, rfl, rfl, ⟨by decide, by decide⟩, ?_⟩
  rintro next found
  cases found
  rw [Value.ofJson_past (by decide)]
  exact Value.toJson_float_ne_int _ _

end BoundQuery
