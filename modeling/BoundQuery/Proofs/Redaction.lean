import BoundQuery.Proofs.Alignment

/-!
Redaction blots out the values of a program of calls and leaves everything else, also which values
are null. A redacted program does step by step what the program itself does, redacted. So programs
that differ only in their values have the same calls refused and send the same SQL.
-/

set_option autoImplicit false

namespace BoundQuery

/-- Null stays null, and all other values look alike. -/
def Value.redacted : Value → Value
  | .null => .null
  | _ => .bool true

theorem Value.redacted_eq_iff {value other : Value} :
    value.redacted = other.redacted ↔ value.isNull = other.isNull := by
  cases value with
  | _ =>
      cases other with
      | _ => simp [Value.redacted, Value.isNull]

theorem Value.redacted_redacted (value : Value) : value.redacted.redacted = value.redacted := by
  cases value with
  | _ => rfl

def Record.redacted (record : Record) : Record :=
  record.map (fun cell => (cell.1, cell.2.redacted))

/-- A date that is refused stays as it is. -/
def DateInput.redacted (date : DateInput) : DateInput :=
  if date.resolve.isOk then .given ⟨2000, 1, 1⟩ else date

def redactedPart (most number : Nat) : Nat :=
  if 1 ≤ number && number ≤ most then 1 else number

def Statement.redacted (statement : Statement) : Statement :=
  ⟨statement.sql, statement.bindings.map Value.redacted⟩

mutual

def Call.redacted : Call → Call
  | .having column operator value => .having column operator value.redacted
  | .havingRaw sql values => .havingRaw sql (values.map Value.redacted)
  | .compare combinator column operator value =>
      .compare combinator column operator value.redacted
  | .membership combinator negated column values =>
      .membership combinator negated column (values.map Value.redacted)
  | .between combinator negated column low high =>
      .between combinator negated column low.redacted high.redacted
  | .whereRaw combinator sql values => .whereRaw combinator sql (values.map Value.redacted)
  | .group combinator calls => .group combinator (Call.redactAll calls)
  | .whereDate column operator date => .whereDate column operator date.redacted
  | .whereYear column operator _ => .whereYear column operator 2000
  | .whereMonth column operator month => .whereMonth column operator (redactedPart 12 month)
  | .whereDay column operator day => .whereDay column operator (redactedPart 31 day)
  | .whereBetweenDates column start stop =>
      .whereBetweenDates column start.redacted stop.redacted
  | .insert records => .insert (records.map Record.redacted)
  | .update changes => .update changes.redacted
  | .raw sql values => .raw sql (values.map Value.redacted)
  | call => call

def Call.redactAll : List Call → List Call
  | [] => []
  | call :: rest => call.redacted :: Call.redactAll rest

end

def Request.redacted : Request → Request
  | .cursor name after limit => .cursor name (after.map Value.redacted) limit
  | request => request

namespace Piece

def redacted : Piece → Piece
  | sql text => sql text
  | slot value => slot value.redacted

theorem values_redacted (pieces : List Piece) :
    values (pieces.map redacted) = (values pieces).map Value.redacted := by
  induction pieces with
  | nil => rfl
  | cons piece rest ih =>
      cases piece with
      | sql text => exact ih
      | slot value => exact congrArg (value.redacted :: ·) ih

theorem writeFrom_redacted (placeholder : Nat → String) (pieces : List Piece) :
    ∀ number : Nat, writeFrom placeholder number (pieces.map redacted) =
      writeFrom placeholder number pieces := by
  induction pieces with
  | nil =>
      intro number
      rfl
  | cons piece rest ih =>
      intro number
      cases piece with
      | sql text => exact congrArg (text.toList ++ ·) (ih number)
      | slot value => exact congrArg ((placeholder number).toList ++ ·) (ih (number + 1))

theorem statement_redacted (profile : Profile) (pieces : List Piece) :
    statement profile (pieces.map redacted) = (statement profile pieces).redacted := by
  unfold statement Statement.redacted
  rw [writeFrom_redacted, values_redacted]

theorem separated_redacted (entries : List (List Piece)) :
    ((entries.intersperse [.sql ", "]).flatten).map redacted =
      ((entries.map (List.map redacted)).intersperse [.sql ", "]).flatten := by
  match entries with
  | [] => rfl
  | [entry] => simp
  | entry :: second :: rest =>
      rw [separated_cons, List.map_append, List.map_cons, separated_redacted]
      simp only [List.map_cons, separated_cons]
      rfl

theorem listed_redacted (values : List Value) :
    (listed values).map redacted = listed (values.map Value.redacted) := by
  rw [listed_eq_separated, listed_eq_separated, separated_redacted, List.map_map, List.map_map]
  rfl

theorem fillSlots_redacted (parts : List Part) :
    ∀ values : List Value, (fillSlots parts values).map redacted =
      fillSlots parts (values.map Value.redacted) := by
  induction parts with
  | nil =>
      intro values
      rfl
  | cons part rest ih =>
      intro values
      cases part with
      | sql text => exact congrArg (Piece.sql text :: ·) (ih values)
      | slot =>
          cases values with
          | nil => exact ih []
          | cons value others => exact congrArg (Piece.slot value.redacted :: ·) (ih others)

/-! ### Conditions -/

def SameRedacted (left right : Except QueryError (List Piece)) : Prop :=
  left.map (List.map redacted) = right.map (List.map redacted)

theorem SameRedacted.bind {Item : Type} (source : Except QueryError Item)
    {first second : Item → Except QueryError (List Piece)}
    (each : ∀ item, SameRedacted (first item) (second item)) :
    SameRedacted (source >>= first) (source >>= second) := by
  cases source with
  | error error => rfl
  | ok item => exact each item

variable (profile : Profile) {value other : Value}

theorem same_slot (left : String) (same : value.redacted = other.redacted) :
    SameRedacted (.ok [.sql left, .slot value]) (.ok [.sql left, .slot other]) := by
  simp [SameRedacted, Except.map, redacted, same]

theorem same_comparison (column operator : String) (same : value.redacted = other.redacted) :
    SameRedacted (comparison profile column operator value)
      (comparison profile column operator other) := by
  refine SameRedacted.bind _ fun comparison => ?_
  refine SameRedacted.bind _ fun rendered => ?_
  rw [Value.redacted_eq_iff.mp same]
  split
  · rfl
  · split
    · rfl
    · exact same_slot _ same

theorem same_membership (negated : Bool) (column : String) {values others : List Value}
    (same : values.map Value.redacted = others.map Value.redacted) :
    SameRedacted (membership profile negated column values)
      (membership profile negated column others) := by
  refine SameRedacted.bind _ fun rendered => ?_
  have empty : values.isEmpty = others.isEmpty := by
    rw [← List.isEmpty_map (f := Value.redacted), same, List.isEmpty_map]
  rw [empty]
  split
  · rfl
  · simp [SameRedacted, Except.map, pure, Except.pure, redacted, listed_redacted, same]

theorem same_range (left : String) {low high least most : Value}
    (first : low.redacted = least.redacted) (second : high.redacted = most.redacted) :
    SameRedacted (.ok (range left low high)) (.ok (range left least most)) := by
  simp [SameRedacted, Except.map, range, redacted, first, second]

theorem same_between (negated : Bool) (column : String) {low high least most : Value}
    (first : low.redacted = least.redacted) (second : high.redacted = most.redacted) :
    SameRedacted (between profile negated column low high)
      (between profile negated column least most) :=
  SameRedacted.bind _ fun _ => same_range _ first second

/-- Whether a raw condition is accepted depends on the number of its values alone. -/
theorem same_rawCondition (kind sql : String) {values others : List Value}
    (same : values.map Value.redacted = others.map Value.redacted) :
    SameRedacted (rawCondition kind sql values) (rawCondition kind sql others) := by
  have size : values.length = others.length := by
    rw [← List.length_map (f := Value.redacted), same, List.length_map]
  have counted : BoundQuery.rawCondition kind sql values =
      BoundQuery.rawCondition kind sql others := by
    unfold BoundQuery.rawCondition
    rw [size]
  unfold rawCondition
  rw [counted]
  refine SameRedacted.bind _ fun parts => congrArg Except.ok ?_
  rw [fillSlots_redacted, fillSlots_redacted, same]

theorem same_enclosed {left right : Except QueryError (List Piece)}
    (same : SameRedacted left right) :
    SameRedacted (left.map enclosed) (right.map enclosed) := by
  have apart : ∀ result : Except QueryError (List Piece),
      (result.map enclosed).map (List.map redacted) =
        (result.map (List.map redacted)).map enclosed := by
    intro result
    cases result with
    | error error => rfl
    | ok pieces => simp [Except.map, enclosed, redacted]
  unfold SameRedacted at same ⊢
  rw [apart, apart, same]

theorem same_datePart (part : DatePart) (column operator : String)
    (same : value.redacted = other.redacted) :
    SameRedacted (datePart profile part column operator value)
      (datePart profile part column operator other) := by
  refine SameRedacted.bind _ fun comparison => ?_
  exact SameRedacted.bind _ fun rendered => same_slot _ same

theorem same_having (column operator : String) (same : value.redacted = other.redacted) :
    SameRedacted (having profile column operator value)
      (having profile column operator other) := by
  refine SameRedacted.bind _ fun comparison => ?_
  exact SameRedacted.bind _ fun rendered => same_slot _ same

/-- Accepted dates are all bound as text. -/
theorem same_onDate (date : DateInput) {first second : Date → Except QueryError (List Piece)}
    (each : ∀ day other : Date, SameRedacted (first day) (second other)) :
    SameRedacted (date.redacted.resolve >>= first) (date.resolve >>= second) := by
  unfold DateInput.redacted
  cases accepted : date.resolve with
  | error error =>
      have refused : (Except.error error : Except QueryError Date).isOk = false := rfl
      rw [refused, if_neg Bool.false_ne_true, accepted]
      rfl
  | ok day => exact each _ _

theorem same_date (column operator : String) (date : DateInput) :
    SameRedacted (Piece.date profile column operator date.redacted)
      (Piece.date profile column operator date) :=
  same_onDate date fun _ _ => same_datePart profile .date column operator rfl

theorem same_dateRange (column : String) (start stop : DateInput) :
    SameRedacted (dateRange profile column start.redacted stop.redacted)
      (dateRange profile column start stop) := by
  refine same_onDate start fun first other => ?_
  refine same_onDate stop fun last another => ?_
  exact SameRedacted.bind _ fun rendered => same_range _ rfl rfl

theorem same_month (column operator : String) (number : Nat) :
    SameRedacted (month profile column operator (redactedPart 12 number))
      (month profile column operator number) := by
  unfold month redactedPart
  by_cases accepted : (decide (1 ≤ number) && decide (number ≤ 12)) = true
  · rw [if_pos accepted, if_pos accepted, if_pos (by decide)]
    exact same_datePart profile .month column operator rfl
  · rw [if_neg accepted, if_neg accepted]
    rfl

theorem same_day (column operator : String) (number : Nat) :
    SameRedacted (day profile column operator (redactedPart 31 number))
      (day profile column operator number) := by
  unfold day redactedPart
  by_cases accepted : (decide (1 ≤ number) && decide (number ≤ 31)) = true
  · rw [if_pos accepted, if_pos accepted, if_pos (by decide)]
    exact same_datePart profile .day column operator rfl
  · rw [if_neg accepted, if_neg accepted]
    rfl

end Piece

theorem Record.redacted_redacted (record : Record) :
    record.redacted.redacted = record.redacted := by
  simp [Record.redacted, Value.redacted_redacted]

theorem Record.columns_redacted (record : Record) : record.redacted.columns = record.columns := by
  unfold Record.redacted Record.columns
  rw [List.map_map]
  rfl

theorem Record.lookup_redacted (record : Record) (name : String) :
    record.redacted.lookup name = (record.lookup name).map Value.redacted := by
  unfold Record.redacted
  induction record with
  | nil => rfl
  | cons cell rest ih =>
      rw [List.map_cons, List.lookup_cons, List.lookup_cons]
      cases name == cell.1 with
      | true => rfl
      | false => exact ih

theorem Draft.cellRow_redacted (names : List String) (index : Nat) (record : Record) :
    cellRow names index record.redacted =
      (cellRow names index record).map (List.map Value.redacted) := by
  have size : record.redacted.length = record.length := List.length_map _
  unfold cellRow
  simp only [size, record.lookup_redacted, Option.isSome_map]
  split
  · exact congrArg Except.ok List.map_filterMap.symm
  · rfl

/-! ### Drafts -/

def Condition.redacted (condition : Condition) : Condition :=
  ⟨condition.combinator, condition.pieces.map Piece.redacted⟩

def Insertion.redacted (insertion : Insertion) : Insertion :=
  ⟨insertion.table, insertion.columns, insertion.rows.map (List.map Value.redacted)⟩

def Assignment.redacted (assignment : Assignment) : Assignment :=
  ⟨assignment.table, Record.redacted assignment.cells⟩

namespace Draft

def redacted (draft : Draft) : Draft :=
  { frame := draft.frame
    wheres := draft.wheres.map Condition.redacted
    havings := draft.havings.map Condition.redacted
    insertion := draft.insertion.map Insertion.redacted
    assignment := draft.assignment.map Assignment.redacted
    raw := draft.raw.map Statement.redacted }

def Mirrors (left right : Except QueryError Draft) : Prop :=
  left.map redacted = right.map redacted

variable {draft other : Draft}

theorem frame_of_redacted (same : draft.redacted = other.redacted) :
    draft.frame = other.frame := by
  have frames : draft.redacted.frame = other.redacted.frame := congrArg Draft.frame same
  exact frames

theorem redacted_addWhere (draft : Draft) (combinator : Combinator) (pieces : List Piece) :
    (draft.addWhere combinator pieces).redacted =
      draft.redacted.addWhere combinator (pieces.map Piece.redacted) := by
  simp [redacted, addWhere, Condition.redacted]

theorem redacted_addHaving (draft : Draft) (pieces : List Piece) :
    (draft.addHaving pieces).redacted =
      draft.redacted.addHaving (pieces.map Piece.redacted) := by
  simp [redacted, addHaving, Condition.redacted]

theorem redacted_chain (conditions : List Condition) :
    (Piece.chain conditions).map Piece.redacted =
      Piece.chain (conditions.map Condition.redacted) := by
  cases conditions with
  | nil => rfl
  | cons first rest =>
      simp [Piece.chain, Condition.redacted, Piece.redacted, List.map_flatMap, List.flatMap_map]

theorem redacted_addGroup (draft : Draft) (combinator : Combinator) (inner : Draft) :
    (draft.addGroup combinator inner).redacted =
      draft.redacted.addGroup combinator inner.redacted := by
  have empty : inner.redacted.wheres.isEmpty = inner.wheres.isEmpty := List.isEmpty_map
  unfold addGroup
  rw [empty]
  split
  · rfl
  · rw [redacted_addWhere]
    simp [Piece.enclosed, Piece.redacted, redacted_chain, redacted]

namespace Mirrors

theorem ok (same : draft.redacted = other.redacted) : Mirrors (.ok draft) (.ok other) :=
  congrArg Except.ok same

theorem bind {Item : Type} (source : Except QueryError Item)
    {first second : Item → Except QueryError Draft}
    (each : ∀ item, Mirrors (first item) (second item)) :
    Mirrors (source >>= first) (source >>= second) := by
  cases source with
  | error error => rfl
  | ok item => exact each item

theorem framed (same : draft.redacted = other.redacted)
    (change : Clauses → Except QueryError Clauses) :
    Mirrors (draft.framed (change draft.frame)) (other.framed (change other.frame)) := by
  rw [frame_of_redacted same]
  cases change other.frame with
  | error error => rfl
  | ok changed => exact ok (congrArg (fun draft => { draft with frame := changed }) same)

theorem filtered (same : draft.redacted = other.redacted) (combinator : Combinator)
    {left right : Except QueryError (List Piece)} (pieces : Piece.SameRedacted left right) :
    Mirrors (draft.filtered combinator left) (other.filtered combinator right) := by
  have apart : ∀ (draft : Draft) (result : Except QueryError (List Piece)),
      (draft.filtered combinator result).map redacted =
        (result.map (List.map Piece.redacted)).map (draft.redacted.addWhere combinator) := by
    intro draft result
    cases result with
    | error error => rfl
    | ok pieces => exact congrArg Except.ok (draft.redacted_addWhere combinator pieces)
  unfold Piece.SameRedacted at pieces
  unfold Mirrors
  rw [apart, apart, pieces, same]

theorem having (same : draft.redacted = other.redacted)
    {left right : Except QueryError (List Piece)} (pieces : Piece.SameRedacted left right) :
    Mirrors (left.map draft.addHaving) (right.map other.addHaving) := by
  have apart : ∀ (draft : Draft) (result : Except QueryError (List Piece)),
      (result.map draft.addHaving).map redacted =
        (result.map (List.map Piece.redacted)).map draft.redacted.addHaving := by
    intro draft result
    cases result with
    | error error => rfl
    | ok pieces => exact congrArg Except.ok (draft.redacted_addHaving pieces)
  unfold Piece.SameRedacted at pieces
  unfold Mirrors
  rw [apart, apart, pieces, same]

theorem group (same : draft.redacted = other.redacted) (combinator : Combinator)
    {left right : Except QueryError Draft} (inner : Mirrors left right) :
    Mirrors (left.map (draft.addGroup combinator)) (right.map (other.addGroup combinator)) := by
  have apart : ∀ (draft : Draft) (result : Except QueryError Draft),
      (result.map (draft.addGroup combinator)).map redacted =
        (result.map redacted).map (draft.redacted.addGroup combinator) := by
    intro draft result
    cases result with
    | error error => rfl
    | ok inner => exact congrArg Except.ok (draft.redacted_addGroup combinator inner)
  unfold Mirrors at inner ⊢
  rw [apart, apart, inner, same]

end Mirrors

variable (profile : Profile)

theorem cellRows_redacted (names : List String) (records : List Record) :
    ∀ index : Nat, cellRows names index (records.map Record.redacted) =
      (cellRows names index records).map (List.map (List.map Value.redacted)) := by
  induction records with
  | nil =>
      intro index
      rfl
  | cons record rest ih =>
      intro index
      rw [List.map_cons, cellRows, cellRows, ih (index + 1), cellRow_redacted]
      cases cellRow names index record with
      | error error => rfl
      | ok values =>
          cases cellRows names (index + 1) rest with
          | error error => rfl
          | ok rows => rfl

theorem redacted_values (values : List Value) :
    (values.map Value.redacted).map Value.redacted = values.map Value.redacted := by
  simp [Value.redacted_redacted]

theorem raw_mirrors (same : draft.redacted = other.redacted) (sql : String)
    (values : List Value) :
    Mirrors (.ok { draft with raw := some ⟨sql, values.map Value.redacted⟩ })
      (.ok { other with raw := some ⟨sql, values⟩ }) := by
  apply Mirrors.ok
  simp only [redacted, Option.map_some, Statement.redacted, redacted_values]
  exact congrArg (fun draft : Draft => { draft with
    raw := some ⟨sql, values.map Value.redacted⟩ }) same

theorem insertMany_mirrors (same : draft.redacted = other.redacted) (records : List Record) :
    Mirrors (draft.insertMany profile (records.map Record.redacted))
      (other.insertMany profile records) := by
  have target : draft.frame.target "insert" = other.frame.target "insert" := by
    rw [frame_of_redacted same]
  unfold insertMany
  rw [target]
  refine Mirrors.bind _ fun table => ?_
  cases records with
  | nil => rfl
  | cons first rest =>
      have empty : first.redacted.isEmpty = first.isEmpty := List.isEmpty_map
      simp only [List.map_cons, empty, first.columns_redacted]
      rw [← List.map_cons, cellRows_redacted]
      split
      · rfl
      · refine Mirrors.bind _ fun columns => ?_
        cases cellRows first.columns 0 (first :: rest) with
        | error error => rfl
        | ok rows =>
            have twice : (rows.map (List.map Value.redacted)).map (List.map Value.redacted) =
                rows.map (List.map Value.redacted) := by
              simp [Value.redacted_redacted]
            apply Mirrors.ok
            simp only [redacted, Option.map_some, Insertion.redacted, twice]
            exact congrArg (fun draft : Draft => { draft with
              insertion := some ⟨table, columns, rows.map (List.map Value.redacted)⟩ }) same

theorem updateWith_mirrors (same : draft.redacted = other.redacted) (changes : Record) :
    Mirrors (draft.updateWith profile changes.redacted) (other.updateWith profile changes) := by
  have empty : changes.redacted.isEmpty = changes.isEmpty := List.isEmpty_map
  have values : changes.redacted.map Prod.snd =
      (changes.map Prod.snd).map Value.redacted := by
    unfold Record.redacted
    rw [List.map_map, List.map_map]
    rfl
  have target : draft.frame.target "update" = other.frame.target "update" := by
    rw [frame_of_redacted same]
  unfold updateWith
  rw [target, empty, changes.columns_redacted, values]
  refine Mirrors.bind _ fun table => ?_
  split
  · rfl
  · refine Mirrors.bind _ fun columns => ?_
    let cells := columns.zip (changes.map Prod.snd)
    have split : columns.zip ((changes.map Prod.snd).map Value.redacted) =
        Record.redacted cells := by
      rw [List.zip_map_right]
      rfl
    apply Mirrors.ok
    rw [split]
    simp only [redacted, Option.map_some, Assignment.redacted, Record.redacted_redacted]
    exact congrArg (fun draft : Draft => { draft with
      assignment := some ⟨table, Record.redacted cells⟩ }) same

mutual

/-- One call and its redaction do the same, and a group does because its own calls do. -/
theorem apply_mirrors {draft other : Draft} (same : draft.redacted = other.redacted) :
    ∀ call : Call, Mirrors (draft.apply profile call.redacted) (other.apply profile call)
  | .readFrom table => Mirrors.framed same fun frame => frame.readFrom profile table
  | .readFromAs table aliasName =>
      Mirrors.framed same fun frame => frame.readFromAs profile table aliasName
  | .select columns => Mirrors.framed same fun frame => frame.select profile columns
  | .selectColumns text => Mirrors.framed same fun frame => frame.selectColumns profile text
  | .selectAliased pairs => Mirrors.framed same fun frame => frame.selectAliased profile pairs
  | .addSelect columns => Mirrors.framed same fun frame => frame.addSelect profile columns
  | .distinct => Mirrors.framed same fun frame => .ok { frame with distinct := true }
  | .join kind table first operator second =>
      Mirrors.framed same fun frame => frame.join profile kind table first operator second
  | .crossJoin table => Mirrors.framed same fun frame => frame.crossJoin profile table
  | .joinRaw kind table condition =>
      Mirrors.framed same fun frame => frame.joinRaw profile kind table condition
  | .groupBy columns => Mirrors.framed same fun frame => frame.groupBy profile columns
  | .having column operator value =>
      Mirrors.having same (Piece.same_having profile column operator value.redacted_redacted)
  | .havingRaw sql values =>
      Mirrors.having same (Piece.same_rawCondition "having" sql (redacted_values values))
  | .orderBy column direction =>
      Mirrors.framed same fun frame => frame.orderBy profile column direction
  | .orderByRaw expression => Mirrors.framed same fun frame => frame.orderByRaw expression
  | .limit number => Mirrors.framed same fun frame => frame.withLimit number
  | .offset number => Mirrors.framed same fun frame => frame.withOffset number
  | .compare combinator column operator value =>
      Mirrors.filtered same combinator
        (Piece.same_comparison profile column operator value.redacted_redacted)
  | .membership combinator negated column values =>
      Mirrors.filtered same combinator
        (Piece.same_membership profile negated column (redacted_values values))
  | .between combinator negated column low high =>
      Mirrors.filtered same combinator (Piece.same_between profile negated column
        low.redacted_redacted high.redacted_redacted)
  | .nullTest combinator _ _ => Mirrors.filtered same combinator rfl
  | .whereRaw combinator sql values =>
      Mirrors.filtered same combinator (Piece.same_enclosed
        (Piece.same_rawCondition "where" sql (redacted_values values)))
  | .group combinator calls =>
      Mirrors.group same combinator
        (applyAll_mirrors (show ({} : Draft).redacted = ({} : Draft).redacted from rfl) calls)
  | .whereDate column operator date =>
      Mirrors.filtered same .and (Piece.same_date profile column operator date)
  | .whereYear column operator _ =>
      Mirrors.filtered same .and (Piece.same_datePart profile .year column operator rfl)
  | .whereMonth column operator month =>
      Mirrors.filtered same .and (Piece.same_month profile column operator month)
  | .whereDay column operator day =>
      Mirrors.filtered same .and (Piece.same_day profile column operator day)
  | .whereToday _ => Mirrors.filtered same .and rfl
  | .whereYesterday _ => Mirrors.filtered same .and rfl
  | .whereLastDays _ _ => Mirrors.filtered same .and rfl
  | .whereBetweenDates column start stop =>
      Mirrors.filtered same .and (Piece.same_dateRange profile column start stop)
  | .insert records => insertMany_mirrors profile same records
  | .update changes => updateWith_mirrors profile same changes
  | .delete => Mirrors.framed same Clauses.deleteRows
  | .raw sql values => raw_mirrors same sql values
  | .cache options => by
      simp only [Call.redacted, apply]
      cases options.check with
      | error error => rfl
      | ok _ => exact Mirrors.ok same
  | .noCache => Mirrors.ok same
  | .encrypt _ => Mirrors.ok same

theorem applyAll_mirrors {draft other : Draft} (same : draft.redacted = other.redacted) :
    ∀ calls : List Call,
    Mirrors (draft.applyAll profile (Call.redactAll calls)) (other.applyAll profile calls)
  | [] => Mirrors.ok same
  | call :: rest => by
      have step := apply_mirrors same call
      simp only [Call.redactAll, applyAll]
      rcases outcomes_of_map_eq step with
        ⟨error, first, second⟩ | ⟨next, reached, first, second, alike⟩
      · rw [first, second]
        rfl
      · rw [first, second]
        exact applyAll_mirrors alike rest

end

end Draft

end BoundQuery
