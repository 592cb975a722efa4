import BoundQuery.Builder.Call
import BoundQuery.Proofs.Request

/-!
A statement as its calls say it, with every value in the place for which it was given: no binding
list, no spans, and nothing that could come apart. A program of calls means such a draft, and the
draft says which text and which values a compiled statement should have.
-/

set_option autoImplicit false

namespace BoundQuery

structure Condition where
  combinator : Combinator
  pieces : List Piece

structure Insertion where
  table : String
  columns : List String
  rows : List (List Value)

structure Assignment where
  table : String
  cells : List (String × Value)

/-- The frame is what holds no values: projection, source, joins, groups, order, paging and a
pending deletion. -/
structure Draft where
  frame : Clauses := {}
  wheres : List Condition := []
  havings : List Condition := []
  insertion : Option Insertion := none
  assignment : Option Assignment := none
  raw : Option Statement := none

theorem rawCondition_ok {kind sql : String} {values : List Value} {parts : List Part}
    (accepted : rawCondition kind sql values = .ok parts) :
    checkRaw kind sql = .ok () ∧ parts.countP Part.isSlot = values.length ∧
      parts = Part.ofRaw (Text.trimChars sql.toList) := by
  obtain ⟨_, checked, further⟩ := exists_of_bind_ok accepted
  dsimp only at further
  split at further
  · rename_i counted
    cases further
    exact ⟨checked, counted, rfl⟩
  · cases further

/-! ### The pieces of one condition -/

namespace Piece

/-- A comparison with null has no slot, so a null that is compared for order keeps its own. -/
def comparison (profile : Profile) (column operator : String) (value : Value) :
    Except QueryError (List Piece) := do
  let comparison ← Operator.read operator
  let rendered ← profile.column column
  if value.isNull && comparison == .equal then pure [.sql (rendered ++ " IS NULL")]
  else if value.isNull && (comparison == .notEqual || comparison == .different) then
    pure [.sql (rendered ++ " IS NOT NULL")]
  else pure [.sql (rendered ++ " " ++ comparison.text ++ " "), .slot value]

def listed : List Value → List Piece
  | [] => []
  | [value] => [.slot value]
  | first :: second :: rest => .slot first :: .sql ", " :: listed (second :: rest)

theorem listed_eq_separated (values : List Value) :
    listed values =
      ((values.map (fun value => [Piece.slot value])).intersperse [.sql ", "]).flatten := by
  match values with
  | [] => rfl
  | [value] => rfl
  | first :: second :: rest =>
      rw [listed, listed_eq_separated (second :: rest)]
      simp

theorem slotList_eq (values : List Value) : slotList values = listed values :=
  (listed_eq_separated values).symm

def membership (profile : Profile) (negated : Bool) (column : String) (values : List Value) :
    Except QueryError (List Piece) := do
  let rendered ← profile.column column
  if values.isEmpty then pure [.sql (if negated then "1 = 1" else "1 = 0")]
  else
    let keyword := if negated then "NOT IN" else "IN"
    pure (.sql (rendered ++ " " ++ keyword ++ " (") :: listed values ++ [.sql ")"])

def range (left : String) (low high : Value) : List Piece :=
  [.sql left, .slot low, .sql " AND ", .slot high]

def between (profile : Profile) (negated : Bool) (column : String) (low high : Value) :
    Except QueryError (List Piece) := do
  let rendered ← profile.column column
  let keyword := if negated then "NOT BETWEEN" else "BETWEEN"
  pure (range (rendered ++ " " ++ keyword ++ " ") low high)

def nullTest (profile : Profile) (negated : Bool) (column : String) :
    Except QueryError (List Piece) := do
  let rendered ← profile.column column
  pure [.sql (rendered ++ (if negated then " IS NOT NULL" else " IS NULL"))]

def enclosed (pieces : List Piece) : List Piece :=
  .sql "(" :: pieces ++ [.sql ")"]

/-- The slots of a raw condition take the given values from left to right. -/
def rawCondition (kind sql : String) (values : List Value) : Except QueryError (List Piece) := do
  let parts ← BoundQuery.rawCondition kind sql values
  pure (fillSlots parts values)

theorem rawCondition_ok {kind sql : String} {values : List Value} {pieces : List Piece}
    (made : rawCondition kind sql values = .ok pieces) :
    checkRaw kind sql = .ok () ∧
      (Part.ofRaw (Text.trimChars sql.toList)).countP Part.isSlot = values.length ∧
        pieces = fillSlots (Part.ofRaw (Text.trimChars sql.toList)) values := by
  obtain ⟨parts, accepted, filled⟩ := exists_of_bind_ok made
  cases filled
  obtain ⟨checked, counted, rfl⟩ := BoundQuery.rawCondition_ok accepted
  exact ⟨checked, counted, rfl⟩

def datePart (profile : Profile) (part : DatePart) (column operator : String) (value : Value) :
    Except QueryError (List Piece) := do
  let comparison ← Operator.read operator
  let rendered ← profile.column column
  pure [.sql (part.extract profile rendered ++ " " ++ comparison.text ++ " "), .slot value]

def date (profile : Profile) (column operator : String) (date : DateInput) :
    Except QueryError (List Piece) := do
  let date ← date.resolve
  datePart profile .date column operator (.string date.text)

def month (profile : Profile) (column operator : String) (month : Nat) :
    Except QueryError (List Piece) :=
  if 1 ≤ month && month ≤ 12 then datePart profile .month column operator (.int month)
  else .error (Clauses.outOfRange "month" 12 month)

def day (profile : Profile) (column operator : String) (day : Nat) :
    Except QueryError (List Piece) :=
  if 1 ≤ day && day ≤ 31 then datePart profile .day column operator (.int day)
  else .error (Clauses.outOfRange "day" 31 day)

def relativeDate (profile : Profile) (column comparison relative : String) :
    Except QueryError (List Piece) := do
  let rendered ← profile.column column
  pure [.sql (profile.dateOf rendered ++ comparison ++ relative)]

def dateRange (profile : Profile) (column : String) (start stop : DateInput) :
    Except QueryError (List Piece) := do
  let first ← start.resolve
  let last ← stop.resolve
  let rendered ← profile.column column
  pure (range (profile.dateOf rendered ++ " BETWEEN ") (.string first.text) (.string last.text))

def having (profile : Profile) (column operator : String) (value : Value) :
    Except QueryError (List Piece) := do
  let comparison ← Operator.read operator
  let rendered ← profile.column column
  pure [.sql (rendered ++ " " ++ comparison.text ++ " "), .slot value]

/-- A chain of conditions; the first combinator is not written. -/
def chain : List Condition → List Piece
  | [] => []
  | first :: rest =>
      first.pieces ++ rest.flatMap (fun condition =>
        .sql (" " ++ condition.combinator.text ++ " ") :: condition.pieces)

end Piece

/-! ### What each call adds -/

namespace Draft

def addWhere (draft : Draft) (combinator : Combinator) (pieces : List Piece) : Draft :=
  { draft with wheres := draft.wheres ++ [⟨combinator, pieces⟩] }

def addHaving (draft : Draft) (pieces : List Piece) : Draft :=
  { draft with havings := draft.havings ++ [⟨.and, pieces⟩] }

def framed (draft : Draft) (result : Except QueryError Clauses) : Except QueryError Draft :=
  result.map (fun frame => { draft with frame := frame })

def filtered (draft : Draft) (combinator : Combinator) (pieces : Except QueryError (List Piece)) :
    Except QueryError Draft :=
  pieces.map (draft.addWhere combinator)

def addGroup (draft : Draft) (combinator : Combinator) (inner : Draft) : Draft :=
  if inner.wheres.isEmpty then draft
  else draft.addWhere combinator (Piece.enclosed (Piece.chain inner.wheres))

/-- What the record has under each of the names, provided that it has these names and no others. -/
def cellRow (names : List String) (index : Nat) (record : Record) :
    Except QueryError (List Value) :=
  if record.length = names.length ∧ ∀ name ∈ names, (record.lookup name).isSome = true then
    .ok (names.filterMap (fun name => record.lookup name))
  else .error (Clauses.unevenRow index)

def cellRows (names : List String) : Nat → List Record → Except QueryError (List (List Value))
  | _, [] => .ok []
  | index, record :: rest => do
      let own ← cellRow names index record
      let others ← cellRows names (index + 1) rest
      pure (own :: others)

def insertMany (draft : Draft) (profile : Profile) (records : List Record) :
    Except QueryError Draft := do
  let table ← draft.frame.target "insert"
  match records with
  | [] => .error (.invalidArgument "insert" "at least one row is required")
  | first :: _ =>
      if first.isEmpty then
        .error (.invalidArgument "insert" "rows must have at least one column")
      else
        let columns ← profile.columns first.columns
        let rows ← cellRows first.columns 0 records
        pure { draft with insertion := some ⟨table, columns, rows⟩ }

def updateWith (draft : Draft) (profile : Profile) (changes : Record) :
    Except QueryError Draft := do
  let table ← draft.frame.target "update"
  if changes.isEmpty then .error (.invalidArgument "update" "no columns to update")
  else
    let columns ← profile.columns changes.columns
    pure { draft with assignment := some ⟨table, columns.zip (changes.map Prod.snd)⟩ }

mutual

/-- A group contributes the conditions that its own calls make from nothing. -/
def apply (profile : Profile) (draft : Draft) : Call → Except QueryError Draft
  | .readFrom table => draft.framed (draft.frame.readFrom profile table)
  | .readFromAs table aliasName => draft.framed (draft.frame.readFromAs profile table aliasName)
  | .select columns => draft.framed (draft.frame.select profile columns)
  | .selectColumns text => draft.framed (draft.frame.selectColumns profile text)
  | .selectAliased pairs => draft.framed (draft.frame.selectAliased profile pairs)
  | .addSelect columns => draft.framed (draft.frame.addSelect profile columns)
  | .distinct => draft.framed (.ok { draft.frame with distinct := true })
  | .join kind table first operator second =>
      draft.framed (draft.frame.join profile kind table first operator second)
  | .crossJoin table => draft.framed (draft.frame.crossJoin profile table)
  | .joinRaw kind table condition => draft.framed (draft.frame.joinRaw profile kind table condition)
  | .groupBy columns => draft.framed (draft.frame.groupBy profile columns)
  | .having column operator value =>
      (Piece.having profile column operator value).map draft.addHaving
  | .havingRaw sql values => (Piece.rawCondition "having" sql values).map draft.addHaving
  | .orderBy column direction => draft.framed (draft.frame.orderBy profile column direction)
  | .orderByRaw expression => draft.framed (draft.frame.orderByRaw expression)
  | .limit number => draft.framed (draft.frame.withLimit number)
  | .offset number => draft.framed (draft.frame.withOffset number)
  | .compare combinator column operator value =>
      draft.filtered combinator (Piece.comparison profile column operator value)
  | .membership combinator negated column values =>
      draft.filtered combinator (Piece.membership profile negated column values)
  | .between combinator negated column low high =>
      draft.filtered combinator (Piece.between profile negated column low high)
  | .nullTest combinator negated column =>
      draft.filtered combinator (Piece.nullTest profile negated column)
  | .whereRaw combinator sql values =>
      draft.filtered combinator ((Piece.rawCondition "where" sql values).map Piece.enclosed)
  | .group combinator calls =>
      (applyAll profile {} calls).map (draft.addGroup combinator)
  | .whereDate column operator date =>
      draft.filtered .and (Piece.date profile column operator date)
  | .whereYear column operator year =>
      draft.filtered .and (Piece.datePart profile .year column operator (.int year))
  | .whereMonth column operator month =>
      draft.filtered .and (Piece.month profile column operator month)
  | .whereDay column operator day => draft.filtered .and (Piece.day profile column operator day)
  | .whereToday column =>
      draft.filtered .and (Piece.relativeDate profile column " = " profile.currentDate)
  | .whereYesterday column =>
      draft.filtered .and (Piece.relativeDate profile column " = " (profile.dateMinusDays 1))
  | .whereLastDays column days =>
      draft.filtered .and (Piece.relativeDate profile column " >= " (profile.dateMinusDays days))
  | .whereBetweenDates column start stop =>
      draft.filtered .and (Piece.dateRange profile column start stop)
  | .insert records => draft.insertMany profile records
  | .update changes => draft.updateWith profile changes
  | .delete => draft.framed draft.frame.deleteRows
  | .raw sql values => .ok { draft with raw := some ⟨sql, values⟩ }
  | .cache options => options.check.map (fun _ => draft)
  | .noCache => .ok draft
  | .encrypt _ => .ok draft

def applyAll (profile : Profile) (draft : Draft) : List Call → Except QueryError Draft
  | [] => .ok draft
  | call :: rest =>
      match apply profile draft call with
      | .ok next => applyAll profile next rest
      | .error error => .error error

end

variable {profile : Profile} {draft next : Draft}

theorem insertMany_ok {records : List Record}
    (accepted : draft.insertMany profile records = .ok next) :
    ∃ insertion, next = { draft with insertion := some insertion } ∧
      draft.frame.target "insert" = .ok insertion.table := by
  obtain ⟨table, named, further⟩ := exists_of_bind_ok accepted
  cases records with
  | nil => cases further
  | cons first rest =>
      dsimp only at further
      split at further
      · cases further
      · obtain ⟨columns, _, further⟩ := exists_of_bind_ok further
        obtain ⟨rows, _, same⟩ := exists_of_bind_ok further
        cases same
        exact ⟨_, rfl, named⟩

theorem updateWith_ok {changes : Record} (accepted : draft.updateWith profile changes = .ok next) :
    ∃ assignment, next = { draft with assignment := some assignment } ∧
      draft.frame.target "update" = .ok assignment.table := by
  obtain ⟨table, named, further⟩ := exists_of_bind_ok accepted
  split at further
  · cases further
  · obtain ⟨columns, _, same⟩ := exists_of_bind_ok further
    cases same
    exact ⟨_, rfl, named⟩

theorem applyAll_cons_ok {call : Call} {rest : List Call}
    (accepted : draft.applyAll profile (call :: rest) = .ok next) :
    ∃ middle, draft.apply profile call = .ok middle ∧ middle.applyAll profile rest = .ok next := by
  unfold applyAll at accepted
  cases first : draft.apply profile call with
  | error error =>
      rw [first] at accepted
      cases accepted
  | ok middle =>
      rw [first] at accepted
      exact ⟨middle, rfl, accepted⟩

theorem applyAll_append (early late : List Call) : ∀ draft : Draft,
    draft.applyAll profile (early ++ late) =
      draft.applyAll profile early >>= fun middle => middle.applyAll profile late := by
  induction early with
  | nil => exact fun _ => rfl
  | cons call rest ih =>
      intro draft
      rw [List.cons_append, applyAll, applyAll]
      cases draft.apply profile call with
      | error error => rfl
      | ok middle => exact ih middle

theorem applyAll_keeps {Part : Type} (part : Draft → Part) {calls : List Call}
    (each : ∀ call ∈ calls, ∀ {draft next : Draft}, draft.apply profile call = .ok next →
      part next = part draft) :
    ∀ {draft next : Draft}, draft.applyAll profile calls = .ok next → part next = part draft := by
  induction calls with
  | nil =>
      intro draft next accepted
      cases accepted
      rfl
  | cons call rest ih =>
      intro draft next accepted
      obtain ⟨middle, own, further⟩ := applyAll_cons_ok accepted
      exact (ih (fun other member => each other (List.mem_cons_of_mem _ member)) further).trans
        (each call List.mem_cons_self own)

/-! ### The statement of a draft -/

def conditionPieces (keyword : String) (conditions : List Condition) : List Piece :=
  if conditions.isEmpty then [] else .sql (" " ++ keyword ++ " ") :: Piece.chain conditions

def insertionPieces (insertion : Insertion) : List Piece :=
  .sql ("INSERT INTO " ++ insertion.table ++ " (" ++ commaSeparated insertion.columns ++
      ") VALUES ") ::
    ((insertion.rows.map (fun row => Piece.sql "(" :: Piece.listed row ++ [.sql ")"])).intersperse
      [.sql ", "]).flatten

def assignmentPieces (assignment : Assignment) : List Piece :=
  .sql ("UPDATE " ++ assignment.table ++ " SET ") ::
    ((assignment.cells.map (fun cell => [Piece.sql (cell.1 ++ " = "), .slot cell.2])).intersperse
      [.sql ", "]).flatten

def tailPieces (profile : Profile) (draft : Draft) : List Piece :=
  .sql draft.frame.groupText :: conditionPieces "HAVING" draft.havings ++
    [.sql (draft.frame.orderText ++ draft.frame.pagingText profile)]

def headText (draft : Draft) : String :=
  draft.frame.projectionText ++ draft.frame.sourceText

def pieces (profile : Profile) (draft : Draft) : List Piece :=
  match draft.insertion, draft.assignment, draft.frame.delete with
  | some insertion, _, _ => insertionPieces insertion
  | none, some assignment, _ =>
      assignmentPieces assignment ++ conditionPieces "WHERE" draft.wheres
  | none, none, some delete =>
      .sql ("DELETE FROM " ++ delete.table) :: conditionPieces "WHERE" draft.wheres
  | none, none, none =>
      .sql draft.headText :: conditionPieces "WHERE" draft.wheres ++ draft.tailPieces profile

def statement (profile : Profile) (draft : Draft) : Statement :=
  match draft.raw with
  | some raw => raw
  | none => Piece.statement profile (draft.pieces profile)

def isWrite (draft : Draft) : Bool :=
  draft.insertion.isSome || draft.assignment.isSome || draft.frame.delete.isSome

def reframe (draft : Draft) (change : Clauses → Clauses) : Draft :=
  { draft with frame := change draft.frame }

/-- One condition for all of them, where an `OR` joins some. -/
def foldWheres (draft : Draft) : Draft :=
  if (draft.wheres.drop 1).any (fun condition => condition.combinator == .or) then
    { draft with wheres := [⟨.and, Piece.enclosed (Piece.chain draft.wheres)⟩] }
  else draft

def behindCursor (draft : Draft) (column : String) : Option Value → Draft
  | none => draft
  | some value => draft.foldWheres.addWhere .and [.sql (column ++ " > "), .slot value]

def requireSelect (draft : Draft) (terminal : String) : Except QueryError Unit :=
  if draft.raw.isSome || draft.isWrite then
    .error (.invalidArgument terminal
      "not available on a builder with a pending write or raw statement")
  else .ok ()

def aggregatePieces (profile : Profile) (draft : Draft) (expression : String) :
    Except QueryError (List Piece) := do
  draft.requireSelect "aggregate"
  let projection := expression ++ " AS " ++ aggregateAlias
  if draft.frame.groups.isEmpty && !draft.frame.distinct then
    pure ((draft.reframe (fun frame => frame.forAggregate projection)).pieces profile)
  else
    let inner := draft.reframe fun frame =>
      { frame with orders := [], limit := none, offset := none }
    pure (.sql ("SELECT " ++ projection ++ " FROM (") :: inner.pieces profile ++
      [.sql ") AS aggregate_table"])

/-- The pieces that a request sends. Only a pending write and a refused column stand in its way. -/
def piecesFor (profile : Profile) (draft : Draft) : Request → Except QueryError (List Piece)
  | .whole => .ok (draft.pieces profile)
  | .limited count =>
      .ok ((draft.reframe fun frame => { frame with limit := some count }).pieces profile)
  | .page offset size =>
      .ok ((draft.reframe fun frame =>
        { frame with limit := some size, offset := some offset }).pieces profile)
  | .count => draft.aggregatePieces profile "COUNT(*)"
  | .aggregate function column => do
      let rendered ← profile.column column
      draft.aggregatePieces profile (function.text ++ "(" ++ rendered ++ ")")
  | .presence => do
      draft.requireSelect "exists"
      pure ((draft.reframe fun frame =>
        { frame with columns := ["1 AS present"], orders := [], limit := some 1 }).pieces profile)
  | .column name => do
      draft.requireSelect "pluck"
      let rendered ← profile.column name
      pure ((draft.reframe fun frame => { frame with columns := [rendered] }).pieces profile)
  | .pair value key => do
      draft.requireSelect "pluck_key_value"
      let first ← profile.column value
      let second ← profile.column key
      pure ((draft.reframe fun frame => { frame with columns := [first, second] }).pieces profile)
  | .cursor column after limit => do
      let rendered ← profile.column column
      pure (((draft.behindCursor rendered after).reframe fun frame =>
        { frame with
          orders := [⟨rendered, .ascending, false⟩]
          limit := some (limit + 1)
          offset := none }).pieces profile)

theorem pieces_of_idle (idle : draft.isWrite = false) :
    draft.pieces profile =
      .sql draft.headText :: conditionPieces "WHERE" draft.wheres ++ draft.tailPieces profile := by
  obtain ⟨⟨insertion, assignment⟩, delete⟩ : (draft.insertion = none ∧
      draft.assignment = none) ∧ draft.frame.delete = none := by
    simpa [isWrite] using idle
  unfold pieces
  rw [insertion, assignment, delete]

theorem foldWheres_frame (draft : Draft) :
    draft.foldWheres.frame = draft.frame ∧ draft.foldWheres.isWrite = draft.isWrite := by
  unfold foldWheres
  split
  · exact ⟨rfl, rfl⟩
  · exact ⟨rfl, rfl⟩

theorem behindCursor_frame (draft : Draft) (column : String) (after : Option Value) :
    (draft.behindCursor column after).frame = draft.frame ∧
      (draft.behindCursor column after).isWrite = draft.isWrite := by
  cases after with
  | none => exact ⟨rfl, rfl⟩
  | some value => exact draft.foldWheres_frame

end Draft

end BoundQuery
