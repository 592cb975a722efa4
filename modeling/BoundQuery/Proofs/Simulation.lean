import BoundQuery.Proofs.Spans

/-!
Each call does to the clauses of a builder what it does to the draft that they stand for: it is
refused for the same reason or leads from aligned clauses to aligned clauses of the next draft. So
a whole program of calls compiles to the statement of its draft.
-/

set_option autoImplicit false

namespace BoundQuery

/-- A result on clauses agrees with one on drafts. -/
structure Follows (result : Except QueryError Clauses) (expected : Except QueryError Draft) :
    Prop where
  aligned : ∀ clauses, result = .ok clauses → clauses.Aligned
  same : result.map Clauses.draft = expected

namespace Follows

theorem ok {clauses : Clauses} {draft : Draft} (aligned : clauses.Aligned)
    (same : clauses.draft = draft) : Follows (.ok clauses) (.ok draft) := by
  refine ⟨?_, ?_⟩
  · intro reached equal
    cases equal
    exact aligned
  · rw [← same]
    rfl

theorem refused (error : QueryError) : Follows (.error error) (.error error) := by
  refine ⟨?_, rfl⟩
  intro reached equal
  cases equal

theorem bind {Item : Type} (source : Except QueryError Item)
    {result : Item → Except QueryError Clauses} {expected : Item → Except QueryError Draft}
    (each : ∀ item, source = .ok item → Follows (result item) (expected item)) :
    Follows (source >>= result) (source >>= expected) := by
  cases found : source with
  | error error => exact refused error
  | ok item => exact each item found

end Follows

namespace Clauses

variable {clauses : Clauses}

structure SameValues (clauses changed : Clauses) : Prop where
  wheres : changed.wheres = clauses.wheres
  havings : changed.havings = clauses.havings
  insert : changed.insert = clauses.insert
  update : changed.update = clauses.update
  raw : changed.raw = clauses.raw
  bindings : changed.bindings = clauses.bindings

theorem SameValues.aligned {changed : Clauses} (same : clauses.SameValues changed)
    (aligned : clauses.Aligned) : changed.Aligned := by
  constructor
  · rw [same.wheres, same.bindings]
    exact aligned.wheres
  · rw [same.havings, same.bindings]
    exact aligned.havings
  · rw [same.insert, same.bindings]
    exact aligned.insert
  · rw [same.update, same.bindings]
    exact aligned.update
  · rw [same.raw, same.bindings]
    exact aligned.raw

theorem SameValues.draft {changed : Clauses} (same : clauses.SameValues changed) :
    changed.draft = { clauses.draft with frame := changed.frame } := by
  simp only [Clauses.draft, same.wheres, same.havings, same.insert, same.update, same.raw,
    same.bindings]

theorem framed_ok (aligned : clauses.Aligned) {changed : Clauses}
    (same : clauses.SameValues changed) :
    Follows (.ok changed) (clauses.draft.framed (.ok changed.frame)) :=
  Follows.ok (same.aligned aligned) same.draft

theorem framed_bind {Item : Type} (source : Except QueryError Item)
    {result frame : Item → Except QueryError Clauses}
    (each : ∀ item, Follows (result item) (clauses.draft.framed (frame item))) :
    Follows (source >>= result) (clauses.draft.framed (source >>= frame)) := by
  cases source with
  | error error => exact Follows.refused error
  | ok item => exact each item

theorem readFrom_follows (aligned : clauses.Aligned) (profile : Profile) (table : String) :
    Follows (clauses.readFrom profile table)
      (clauses.draft.framed (clauses.draft.frame.readFrom profile table)) := by
  refine framed_bind (profile.table table) fun rendered => ?_
  exact framed_ok aligned ⟨rfl, rfl, rfl, rfl, rfl, rfl⟩

theorem readFromAs_follows (aligned : clauses.Aligned) (profile : Profile)
    (table aliasName : String) :
    Follows (clauses.readFromAs profile table aliasName)
      (clauses.draft.framed (clauses.draft.frame.readFromAs profile table aliasName)) := by
  refine framed_bind (profile.table table) fun rendered => ?_
  refine framed_bind (profile.aliasName aliasName) fun named => ?_
  exact framed_ok aligned ⟨rfl, rfl, rfl, rfl, rfl, rfl⟩

theorem select_follows (aligned : clauses.Aligned) (profile : Profile) (names : List String) :
    Follows (clauses.select profile names)
      (clauses.draft.framed (clauses.draft.frame.select profile names)) := by
  refine framed_bind (profile.columns names) fun rendered => ?_
  exact framed_ok aligned ⟨rfl, rfl, rfl, rfl, rfl, rfl⟩

theorem selectAliased_follows (aligned : clauses.Aligned) (profile : Profile)
    (pairs : List (String × String)) :
    Follows (clauses.selectAliased profile pairs)
      (clauses.draft.framed (clauses.draft.frame.selectAliased profile pairs)) := by
  unfold selectAliased
  generalize pairs.mapM (fun pair => aliased profile pair.1 pair.2) = source
  refine framed_bind source fun rendered => ?_
  exact framed_ok aligned ⟨rfl, rfl, rfl, rfl, rfl, rfl⟩

theorem addSelect_follows (aligned : clauses.Aligned) (profile : Profile) (names : List String) :
    Follows (clauses.addSelect profile names)
      (clauses.draft.framed (clauses.draft.frame.addSelect profile names)) := by
  refine framed_bind (profile.columns names) fun rendered => ?_
  exact framed_ok aligned ⟨rfl, rfl, rfl, rfl, rfl, rfl⟩

theorem join_follows (aligned : clauses.Aligned) (profile : Profile) (kind : JoinKind)
    (table first operator second : String) :
    Follows (clauses.join profile kind table first operator second)
      (clauses.draft.framed
        (clauses.draft.frame.join profile kind table first operator second)) := by
  refine framed_bind (profile.table table) fun rendered => ?_
  refine framed_bind (Operator.read operator) fun comparison => ?_
  refine framed_bind (profile.column first) fun left => ?_
  refine framed_bind (profile.column second) fun right => ?_
  exact framed_ok aligned ⟨rfl, rfl, rfl, rfl, rfl, rfl⟩

theorem crossJoin_follows (aligned : clauses.Aligned) (profile : Profile) (table : String) :
    Follows (clauses.crossJoin profile table)
      (clauses.draft.framed (clauses.draft.frame.crossJoin profile table)) := by
  refine framed_bind (profile.table table) fun rendered => ?_
  exact framed_ok aligned ⟨rfl, rfl, rfl, rfl, rfl, rfl⟩

theorem joinRaw_follows (aligned : clauses.Aligned) (profile : Profile) (kind : JoinKind)
    (table condition : String) :
    Follows (clauses.joinRaw profile kind table condition)
      (clauses.draft.framed (clauses.draft.frame.joinRaw profile kind table condition)) := by
  refine framed_bind (profile.table table) fun rendered => ?_
  refine framed_bind (checkRaw "join condition" condition) fun _ => ?_
  exact framed_ok aligned ⟨rfl, rfl, rfl, rfl, rfl, rfl⟩

theorem groupBy_follows (aligned : clauses.Aligned) (profile : Profile) (names : List String) :
    Follows (clauses.groupBy profile names)
      (clauses.draft.framed (clauses.draft.frame.groupBy profile names)) := by
  refine framed_bind (profile.columns names) fun rendered => ?_
  exact framed_ok aligned ⟨rfl, rfl, rfl, rfl, rfl, rfl⟩

theorem orderBy_follows (aligned : clauses.Aligned) (profile : Profile) (column : String)
    (direction : Direction) :
    Follows (clauses.orderBy profile column direction)
      (clauses.draft.framed (clauses.draft.frame.orderBy profile column direction)) := by
  refine framed_bind (profile.column column) fun rendered => ?_
  exact framed_ok aligned ⟨rfl, rfl, rfl, rfl, rfl, rfl⟩

theorem orderByRaw_follows (aligned : clauses.Aligned) (expression : String) :
    Follows (clauses.orderByRaw expression)
      (clauses.draft.framed (clauses.draft.frame.orderByRaw expression)) := by
  refine framed_bind (checkRaw "order expression" expression) fun _ => ?_
  by_cases empty : (Text.trim expression).isEmpty = true
  · simp only [empty, if_true]
    exact Follows.refused _
  · simp only [empty]
    exact framed_ok aligned ⟨rfl, rfl, rfl, rfl, rfl, rfl⟩

theorem withLimit_follows (aligned : clauses.Aligned) (number : Int) :
    Follows (clauses.withLimit number)
      (clauses.draft.framed (clauses.draft.frame.withLimit number)) := by
  refine framed_bind (nonNegative "limit" number) fun count => ?_
  exact framed_ok aligned ⟨rfl, rfl, rfl, rfl, rfl, rfl⟩

theorem withOffset_follows (aligned : clauses.Aligned) (number : Int) :
    Follows (clauses.withOffset number)
      (clauses.draft.framed (clauses.draft.frame.withOffset number)) := by
  refine framed_bind (nonNegative "offset" number) fun count => ?_
  exact framed_ok aligned ⟨rfl, rfl, rfl, rfl, rfl, rfl⟩

theorem deleteRows_follows (aligned : clauses.Aligned) :
    Follows clauses.deleteRows (clauses.draft.framed clauses.draft.frame.deleteRows) := by
  refine framed_bind (clauses.target "delete") fun table => ?_
  exact framed_ok aligned ⟨rfl, rfl, rfl, rfl, rfl, rfl⟩

/-! ### Calls that add a condition -/

theorem filtered_ok (aligned : clauses.Aligned) (combinator : Combinator) {parts : List Part}
    {values : List Value} {pieces : List Piece}
    (filled : parts.countP Part.isSlot = values.length)
    (spelled : fillSlots parts values = pieces) :
    Follows (.ok (clauses.addWhere combinator parts values))
      (clauses.draft.filtered combinator (.ok pieces)) := by
  refine Follows.ok (addWhere_aligned aligned combinator parts values filled) ?_
  rw [draft_addWhere aligned, spelled]

theorem filtered_bind {Item : Type} (combinator : Combinator)
    (source : Except QueryError Item) {result : Item → Except QueryError Clauses}
    {pieces : Item → Except QueryError (List Piece)}
    (each : ∀ item, source = .ok item →
      Follows (result item) (clauses.draft.filtered combinator (pieces item))) :
    Follows (source >>= result) (clauses.draft.filtered combinator (source >>= pieces)) := by
  cases found : source with
  | error error => exact Follows.refused error
  | ok item => exact each item found

theorem having_bind {Item : Type} (source : Except QueryError Item)
    {result : Item → Except QueryError Clauses} {pieces : Item → Except QueryError (List Piece)}
    (each : ∀ item, source = .ok item →
      Follows (result item) ((pieces item).map clauses.draft.addHaving)) :
    Follows (source >>= result) ((source >>= pieces).map clauses.draft.addHaving) := by
  cases found : source with
  | error error => exact Follows.refused error
  | ok item => exact each item found

theorem having_ok (aligned : clauses.Aligned) {parts : List Part} {values : List Value}
    (filled : parts.countP Part.isSlot = values.length) :
    Follows (.ok (clauses.addHaving parts values))
      (.ok (clauses.draft.addHaving (fillSlots parts values))) :=
  Follows.ok (addHaving_aligned aligned parts values filled)
    (draft_addHaving aligned parts values)

theorem compare_follows (aligned : clauses.Aligned) (profile : Profile) (combinator : Combinator)
    (column operator : String) (value : Value) :
    Follows (clauses.compare profile combinator column operator value)
      (clauses.draft.filtered combinator (Piece.comparison profile column operator value)) := by
  refine filtered_bind combinator (Operator.read operator) fun comparison _ => ?_
  refine filtered_bind combinator (profile.column column) fun rendered _ => ?_
  by_cases equal : (value.isNull && comparison == .equal) = true
  · simp only [equal, if_true]
    exact filtered_ok aligned combinator rfl rfl
  · simp only [equal]
    by_cases different :
        (value.isNull && (comparison == .notEqual || comparison == .different)) = true
    · simp only [different, if_true]
      exact filtered_ok aligned combinator rfl rfl
    · simp only [different]
      exact filtered_ok aligned combinator rfl rfl

private theorem countP_slotParts (count : Nat) : (slotParts count).countP Part.isSlot = count := by
  match count with
  | 0 => rfl
  | 1 => rfl
  | count + 2 =>
      simp only [slotParts, List.countP_cons, countP_slotParts (count + 1), Part.isSlot,
        if_true]
      simp

private theorem fillSlots_slotParts (values rest : List Value) (parts : List Part) :
    fillSlots (slotParts values.length ++ parts) (values ++ rest) =
      Piece.listed values ++ fillSlots parts rest := by
  match values with
  | [] => rfl
  | [value] => rfl
  | first :: second :: others =>
      have further := fillSlots_slotParts (second :: others) rest parts
      simp only [List.length_cons, List.cons_append] at further
      simp only [List.length_cons, slotParts, List.cons_append, fillSlots, further, Piece.listed]

theorem membership_follows (aligned : clauses.Aligned) (profile : Profile)
    (combinator : Combinator) (negated : Bool) (column : String) (values : List Value) :
    Follows (clauses.membership profile combinator negated column values)
      (clauses.draft.filtered combinator (Piece.membership profile negated column values)) := by
  refine filtered_bind combinator (profile.column column) fun rendered _ => ?_
  by_cases empty : values.isEmpty = true
  · simp only [empty, if_true]
    exact filtered_ok aligned combinator rfl rfl
  · simp only [empty]
    refine filtered_ok aligned combinator ?_ ?_
    · simp [Part.isSlot, countP_slotParts]
    · have spelled := fillSlots_slotParts values [] [.sql ")"]
      rw [List.append_nil] at spelled
      simp only [List.cons_append, fillSlots, spelled]

theorem between_follows (aligned : clauses.Aligned) (profile : Profile) (combinator : Combinator)
    (negated : Bool) (column : String) (low high : Value) :
    Follows (clauses.between profile combinator negated column low high)
      (clauses.draft.filtered combinator (Piece.between profile negated column low high)) := by
  refine filtered_bind combinator (profile.column column) fun rendered _ => ?_
  exact filtered_ok aligned combinator rfl rfl

theorem nullTest_follows (aligned : clauses.Aligned) (profile : Profile) (combinator : Combinator)
    (negated : Bool) (column : String) :
    Follows (clauses.nullTest profile combinator negated column)
      (clauses.draft.filtered combinator (Piece.nullTest profile negated column)) := by
  refine filtered_bind combinator (profile.column column) fun rendered _ => ?_
  exact filtered_ok aligned combinator rfl rfl

end Clauses

namespace Clauses

variable {clauses : Clauses}

theorem whereRaw_follows (aligned : clauses.Aligned) (combinator : Combinator) (sql : String)
    (values : List Value) :
    Follows (clauses.whereRaw combinator sql values)
      (clauses.draft.filtered combinator
        ((Piece.rawCondition "where" sql values).map Piece.enclosed)) := by
  unfold whereRaw Piece.rawCondition
  cases found : rawCondition "where" sql values with
  | error error => exact Follows.refused error
  | ok parts =>
      have filled := (rawCondition_ok found).2.1
      exact filtered_ok aligned combinator ((countP_parenthesized parts).trans filled)
        (fillSlots_parenthesized parts values filled)

theorem addGroup_follows (aligned : clauses.Aligned) (combinator : Combinator) {inner : Clauses}
    (innerAligned : inner.Aligned) :
    Follows (.ok (clauses.addGroup combinator inner))
      (.ok (clauses.draft.addGroup combinator inner.draft)) := by
  unfold addGroup Draft.addGroup
  cases conditions : inner.wheres with
  | nil =>
      simp only [draft, conditions, List.map_nil, List.isEmpty_nil, if_true]
      exact Follows.ok aligned rfl
  | cons first rest =>
      have counted := countP_chainParts inner.bindings inner.wheres innerAligned.wheres
      have spelled := fillSlots_parenthesized _ _ counted
      rw [fillSlots_chain inner.bindings inner.wheres innerAligned.wheres] at spelled
      rw [conditions] at counted spelled
      simp only [List.isEmpty_cons, draft, conditions, List.map_cons]
      exact filtered_ok aligned combinator ((countP_parenthesized _).trans counted) spelled

theorem compareDatePart_follows (aligned : clauses.Aligned) (profile : Profile) (part : DatePart)
    (column operator : String) (value : Value) :
    Follows (clauses.compareDatePart profile part column operator value)
      (clauses.draft.filtered .and (Piece.datePart profile part column operator value)) := by
  refine filtered_bind .and (Operator.read operator) fun comparison _ => ?_
  refine filtered_bind .and (profile.column column) fun rendered _ => ?_
  exact filtered_ok aligned .and rfl rfl

theorem whereDate_follows (aligned : clauses.Aligned) (profile : Profile)
    (column operator : String) (date : DateInput) :
    Follows (clauses.whereDate profile column operator date)
      (clauses.draft.filtered .and (Piece.date profile column operator date)) := by
  unfold whereDate Piece.date DateInput.value
  cases date.resolve with
  | error error => exact Follows.refused error
  | ok resolved => exact compareDatePart_follows aligned profile .date column operator _

theorem whereMonth_follows (aligned : clauses.Aligned) (profile : Profile)
    (column operator : String) (month : Nat) :
    Follows (clauses.whereMonth profile column operator month)
      (clauses.draft.filtered .and (Piece.month profile column operator month)) := by
  unfold whereMonth Piece.month
  split
  · exact compareDatePart_follows aligned profile .month column operator _
  · exact Follows.refused _

theorem whereDay_follows (aligned : clauses.Aligned) (profile : Profile)
    (column operator : String) (day : Nat) :
    Follows (clauses.whereDay profile column operator day)
      (clauses.draft.filtered .and (Piece.day profile column operator day)) := by
  unfold whereDay Piece.day
  split
  · exact compareDatePart_follows aligned profile .day column operator _
  · exact Follows.refused _

theorem whereToday_follows (aligned : clauses.Aligned) (profile : Profile) (column : String) :
    Follows (clauses.whereToday profile column)
      (clauses.draft.filtered .and
        (Piece.relativeDate profile column " = " profile.currentDate)) := by
  refine filtered_bind .and (profile.column column) fun rendered _ => ?_
  exact filtered_ok aligned .and rfl rfl

theorem whereYesterday_follows (aligned : clauses.Aligned) (profile : Profile)
    (column : String) :
    Follows (clauses.whereYesterday profile column)
      (clauses.draft.filtered .and
        (Piece.relativeDate profile column " = " (profile.dateMinusDays 1))) := by
  refine filtered_bind .and (profile.column column) fun rendered _ => ?_
  exact filtered_ok aligned .and rfl rfl

theorem whereLastDays_follows (aligned : clauses.Aligned) (profile : Profile) (column : String)
    (days : Nat) :
    Follows (clauses.whereLastDays profile column days)
      (clauses.draft.filtered .and
        (Piece.relativeDate profile column " >= " (profile.dateMinusDays days))) := by
  refine filtered_bind .and (profile.column column) fun rendered _ => ?_
  exact filtered_ok aligned .and rfl rfl

theorem whereBetweenDates_follows (aligned : clauses.Aligned) (profile : Profile)
    (column : String) (start stop : DateInput) :
    Follows (clauses.whereBetweenDates profile column start stop)
      (clauses.draft.filtered .and (Piece.dateRange profile column start stop)) := by
  unfold whereBetweenDates Piece.dateRange DateInput.value
  cases start.resolve with
  | error error => exact Follows.refused error
  | ok first =>
      cases stop.resolve with
      | error error => exact Follows.refused error
      | ok last =>
          refine filtered_bind .and (profile.column column) fun rendered _ => ?_
          exact filtered_ok aligned .and rfl rfl

theorem having_follows (aligned : clauses.Aligned) (profile : Profile)
    (column operator : String) (value : Value) :
    Follows (clauses.having profile column operator value)
      ((Piece.having profile column operator value).map clauses.draft.addHaving) := by
  refine having_bind (Operator.read operator) fun comparison _ => ?_
  refine having_bind (profile.column column) fun rendered _ => ?_
  exact having_ok aligned rfl

theorem havingRaw_follows (aligned : clauses.Aligned) (sql : String) (values : List Value) :
    Follows (clauses.havingRaw sql values)
      ((Piece.rawCondition "having" sql values).map clauses.draft.addHaving) := by
  refine having_bind (rawCondition "having" sql values) fun parts accepted => ?_
  exact having_ok aligned (rawCondition_ok accepted).2.1

theorem selectColumns_follows (aligned : clauses.Aligned) (profile : Profile) (text : String) :
    Follows (clauses.selectColumns profile text)
      (clauses.draft.framed (clauses.draft.frame.selectColumns profile text)) :=
  select_follows aligned profile _

theorem distinct_follows (aligned : clauses.Aligned) :
    Follows (.ok { clauses with distinct := true })
      (clauses.draft.framed (.ok { clauses.draft.frame with distinct := true })) :=
  framed_ok aligned ⟨rfl, rfl, rfl, rfl, rfl, rfl⟩

end Clauses

/-! ### Calls that write -/

theorem length_of_mapM {Source Target : Type} {read : Source → Except QueryError Target} :
    ∀ {sources : List Source} {targets : List Target},
      sources.mapM read = .ok targets → targets.length = sources.length := by
  intro sources
  induction sources with
  | nil =>
      intro targets done
      cases done
      rfl
  | cons source rest ih =>
      intro targets done
      rw [List.mapM_cons] at done
      obtain ⟨target, _, further⟩ := exists_of_bind_ok done
      obtain ⟨others, read, same⟩ := exists_of_bind_ok further
      cases same
      rw [List.length_cons, List.length_cons, ih read]

theorem rowsOf_flatten (width : Nat) (rows : List (List Value))
    (even : ∀ row ∈ rows, row.length = width) : rowsOf width rows.length rows.flatten = rows := by
  induction rows with
  | nil => rfl
  | cons row rest ih =>
      have own := even row List.mem_cons_self
      have others := ih (fun other member => even other (List.mem_cons_of_mem _ member))
      simp only [List.length_cons, List.flatten_cons, rowsOf]
      rw [List.take_left' own, List.drop_left' own, others]

theorem mapM_eq_ite {Source Target : Type} (read : Source → Option Target)
    (sources : List Source) :
    sources.mapM read =
      if ∀ source ∈ sources, (read source).isSome = true then some (sources.filterMap read)
      else none := by
  induction sources with
  | nil => rfl
  | cons source rest ih =>
      rw [List.mapM_cons, ih]
      cases own : read source with
      | none => simp [own]
      | some target =>
          by_cases others : ∀ source ∈ rest, (read source).isSome = true
          · rw [if_pos others, if_pos (List.forall_mem_cons.mpr ⟨by rw [own]; rfl, others⟩),
              List.filterMap_cons_some own]
            rfl
          · rw [if_neg others, if_neg fun all => others (List.forall_mem_cons.mp all).2]
            rfl

namespace Draft

theorem rowValues_eq (names : List String) (index : Nat) (record : Record) :
    Clauses.rowValues names index record = cellRow names index record := by
  unfold Clauses.rowValues cellRow
  rw [mapM_eq_ite]
  by_cases even : record.length = names.length
  · rw [if_pos even]
    by_cases each : ∀ name ∈ names, (record.lookup name).isSome = true
    · rw [if_pos each, if_pos ⟨even, each⟩]
    · rw [if_neg each, if_neg fun both => each both.2]
  · rw [if_neg even, if_neg fun both => even both.1]

theorem length_of_cellRow {names : List String} {index : Nat} {record : Record}
    {values : List Value} (done : cellRow names index record = .ok values) :
    values.length = names.length := by
  unfold cellRow at done
  split at done
  · rename_i proper
    cases done
    rw [List.length_filterMap_eq_countP, List.countP_eq_length]
    exact proper.2
  · cases done

theorem cellRows_even (names : List String) (records : List Record) :
    ∀ (index : Nat) (rows : List (List Value)), cellRows names index records = .ok rows →
      rows.length = records.length ∧ ∀ row ∈ rows, row.length = names.length := by
  induction records with
  | nil =>
      intro index rows done
      cases done
      exact ⟨rfl, fun row member => by cases member⟩
  | cons record rest ih =>
      intro index rows done
      unfold cellRows at done
      obtain ⟨values, own, further⟩ := exists_of_bind_ok done
      obtain ⟨others, made, same⟩ := exists_of_bind_ok further
      cases same
      obtain ⟨counted, even⟩ := ih (index + 1) others made
      refine ⟨by rw [List.length_cons, List.length_cons, counted], ?_⟩
      intro row member
      rcases List.mem_cons.mp member with new | old
      · rw [new]
        exact length_of_cellRow own
      · exact even row old

theorem rowsValues_eq (names : List String) (records : List Record) :
    ∀ index : Nat, Clauses.rowsValues names index records =
      (cellRows names index records).map List.flatten := by
  induction records with
  | nil =>
      intro index
      rfl
  | cons record rest ih =>
      intro index
      unfold Clauses.rowsValues cellRows
      rw [ih (index + 1), rowValues_eq]
      cases cellRow names index record with
      | error error => rfl
      | ok values =>
          cases cellRows names (index + 1) rest with
          | error error => rfl
          | ok further => rfl

end Draft

namespace Clauses

variable {clauses : Clauses}

theorem insertMany_follows (aligned : clauses.Aligned) (profile : Profile)
    (records : List Record) :
    Follows (clauses.insertMany profile records) (clauses.draft.insertMany profile records) := by
  refine Follows.bind (clauses.target "insert") fun table _ => ?_
  cases records with
  | nil => exact Follows.refused _
  | cons first rest =>
      by_cases blank : first.isEmpty = true
      · simp only [blank, if_true]
        exact Follows.refused _
      · simp only [blank]
        refine Follows.bind (profile.columns first.columns) fun columns named => ?_
        rw [Draft.rowsValues_eq]
        cases found : Draft.cellRows first.columns 0 (first :: rest) with
        | error error => exact Follows.refused error
        | ok rows =>
            obtain ⟨counted, even⟩ := Draft.cellRows_even _ _ _ _ found
            have width : columns.length = first.columns.length := length_of_mapM named
            have total : rows.flatten.length = columns.length * (first :: rest).length := by
              rw [List.length_flatten, List.map_congr_left even, List.map_const',
                List.sum_replicate_nat, counted, width, Nat.mul_comm]
            have wide : 0 < columns.length := by
              rw [width]
              cases first with
              | nil => simp at blank
              | cons cell others => simp [Record.columns]
            have grown := aligned.grow rows.flatten
            refine Follows.ok ⟨grown.wheres, grown.havings, ?_, grown.update, grown.raw⟩ ?_
            · intro insert pending
              cases pending
              refine ⟨clauses.bindings.append_within rows.flatten, wide, ?_⟩
              simp only [BindingList.append]
              omega
            · have own : Insert.insertion (clauses.bindings.append rows.flatten).2
                  ⟨table, columns, (first :: rest).length,
                    (clauses.bindings.append rows.flatten).1⟩ = ⟨table, columns, rows⟩ := by
                simp only [Insert.insertion, BindingList.slice_append]
                rw [← counted, rowsOf_flatten]
                intro row member
                rw [even row member, width]
              rw [← draft_grow aligned rows.flatten]
              simp only [draft, Option.map_some, own]
              rfl

theorem updateWith_follows (aligned : clauses.Aligned) (profile : Profile) (changes : Record) :
    Follows (clauses.updateWith profile changes) (clauses.draft.updateWith profile changes) := by
  refine Follows.bind (clauses.target "update") fun table _ => ?_
  by_cases blank : changes.isEmpty = true
  · simp only [blank, if_true]
    exact Follows.refused _
  · simp only [blank]
    refine Follows.bind (profile.columns changes.columns) fun columns named => ?_
    have width : columns.length = (changes.map Prod.snd).length := by
      rw [length_of_mapM named, List.length_map]
      simp [Record.columns]
    have grown := aligned.grow (changes.map Prod.snd)
    refine Follows.ok ⟨grown.wheres, grown.havings, grown.insert, ?_, grown.raw⟩ ?_
    · intro update pending
      cases pending
      refine ⟨clauses.bindings.append_within (changes.map Prod.snd), ?_⟩
      simp only [BindingList.append]
      omega
    · have own : Update.assignment (clauses.bindings.append (changes.map Prod.snd)).2
          ⟨table, columns, (clauses.bindings.append (changes.map Prod.snd)).1⟩ =
            ⟨table, columns.zip (changes.map Prod.snd)⟩ := by
        simp only [Update.assignment, BindingList.slice_append]
      rw [← draft_grow aligned (changes.map Prod.snd)]
      simp only [draft, Option.map_some, own]
      rfl

theorem withRaw_follows (aligned : clauses.Aligned) (sql : String) (values : List Value) :
    Follows (.ok (clauses.withRaw sql values))
      (.ok { clauses.draft with raw := some ⟨sql, values⟩ }) := by
  have grown := aligned.grow values
  refine Follows.ok ⟨grown.wheres, grown.havings, grown.insert, grown.update, ?_⟩ ?_
  · intro raw pending
    cases pending
    exact clauses.bindings.append_within values
  · have own : RawStatement.statement (clauses.bindings.append values).2
        ⟨sql, (clauses.bindings.append values).1⟩ = ⟨sql, values⟩ := by
      simp only [RawStatement.statement, BindingList.slice_append]
    rw [← draft_grow aligned values]
    simp only [draft, withRaw, Option.map_some, own]
    rfl

end Clauses

/-! ### Programs of calls -/

namespace Builder

theorem with?_eq_ok {builder next : Builder} {result : Except QueryError Clauses}
    (done : builder.with? result = .ok next) :
    ∃ clauses, result = .ok clauses ∧ next = { builder with clauses := clauses } := by
  cases result with
  | error error => cases done
  | ok clauses =>
      cases done
      exact ⟨clauses, rfl, rfl⟩

theorem clauses_with? (builder : Builder) (result : Except QueryError Clauses) :
    (builder.with? result).map Builder.clauses = result := by
  cases result with
  | error error => rfl
  | ok clauses => rfl

theorem map_cached {Part : Type} (part : Builder → Part) (builder : Builder)
    (options : CacheOptions)
    (apart : ∀ directive, part { builder with directive := directive } = part builder) :
    (builder.cached options).map part = options.check.map (fun _ => part builder) := by
  unfold cached
  cases options.check with
  | error error => rfl
  | ok _ =>
      change Except.map _ (if _ then pure _ else pure _) = _
      split
      · exact congrArg Except.ok (apart _)
      · rfl

theorem apply_kind {builder next : Builder} {call : Call}
    (done : builder.apply call = .ok next) :
    next.profile = builder.profile ∧ next.cacheable = builder.cacheable := by
  have kept : ∀ result, builder.with? result = .ok next →
      next.profile = builder.profile ∧ next.cacheable = builder.cacheable := by
    intro result replaced
    obtain ⟨clauses, _, rfl⟩ := with?_eq_ok replaced
    exact ⟨rfl, rfl⟩
  cases call with
  | cache options =>
      have kind := map_cached (fun builder => (builder.profile, builder.cacheable)) builder options
        fun _ => rfl
      simp only [apply] at done
      rw [done] at kind
      obtain ⟨_, _, same⟩ := exists_of_map_ok kind.symm
      exact ⟨(congrArg Prod.fst same).symm, (congrArg Prod.snd same).symm⟩
  | noCache =>
      cases done
      exact ⟨rfl, rfl⟩
  | encrypt fields =>
      cases done
      exact ⟨rfl, rfl⟩
  | _ => exact kept _ done

theorem applyAll_cons_ok {builder reached : Builder} {call : Call} {rest : List Call}
    (done : builder.applyAll (call :: rest) = .ok reached) :
    ∃ next, builder.apply call = .ok next ∧ next.applyAll rest = .ok reached := by
  unfold applyAll at done
  split at done
  · rename_i next first
    exact ⟨next, first, done⟩
  · cases done

theorem applyAll_kind {calls : List Call} :
    ∀ {builder reached : Builder}, builder.applyAll calls = .ok reached →
      reached.profile = builder.profile ∧ reached.cacheable = builder.cacheable := by
  induction calls with
  | nil =>
      intro builder reached done
      cases done
      exact ⟨rfl, rfl⟩
  | cons call rest ih =>
      intro builder reached done
      obtain ⟨next, first, further⟩ := applyAll_cons_ok done
      have own := apply_kind first
      have others := ih further
      exact ⟨others.1.trans own.1, others.2.trans own.2⟩

theorem clauses_cached (builder : Builder) (options : CacheOptions) :
    (builder.cached options).map Builder.clauses =
      options.check.map (fun _ => builder.clauses) :=
  map_cached clauses builder options fun _ => rfl

end Builder

theorem Follows.within {result : Except QueryError Clauses} {expected : Except QueryError Draft}
    (follows : Follows result expected) (builder : Builder) :
    Follows ((builder.with? result).map Builder.clauses) expected := by
  rw [Builder.clauses_with?]
  exact follows

open Clauses

mutual

/-- One call, by the operation that it is; a group is a program of its own. -/
theorem Builder.apply_follows (builder : Builder) (aligned : builder.clauses.Aligned) :
    ∀ call : Call, Follows ((builder.apply call).map Builder.clauses)
      (builder.clauses.draft.apply builder.profile call)
  | .readFrom table =>
      (readFrom_follows aligned _ table).within builder
  | .readFromAs table aliasName =>
      (readFromAs_follows aligned _ table aliasName).within builder
  | .select columns =>
      (select_follows aligned _ columns).within builder
  | .selectColumns text =>
      (selectColumns_follows aligned _ text).within builder
  | .selectAliased pairs =>
      (selectAliased_follows aligned _ pairs).within builder
  | .addSelect columns =>
      (addSelect_follows aligned _ columns).within builder
  | .distinct =>
      (distinct_follows aligned).within builder
  | .join kind table first operator second =>
      (join_follows aligned _ kind table first operator second).within builder
  | .crossJoin table =>
      (crossJoin_follows aligned _ table).within builder
  | .joinRaw kind table condition =>
      (joinRaw_follows aligned _ kind table condition).within builder
  | .groupBy columns =>
      (groupBy_follows aligned _ columns).within builder
  | .having column operator value =>
      (having_follows aligned _ column operator value).within builder
  | .havingRaw sql values =>
      (havingRaw_follows aligned sql values).within builder
  | .orderBy column direction =>
      (orderBy_follows aligned _ column direction).within builder
  | .orderByRaw expression =>
      (orderByRaw_follows aligned expression).within builder
  | .limit number =>
      (withLimit_follows aligned number).within builder
  | .offset number =>
      (withOffset_follows aligned number).within builder
  | .compare combinator column operator value =>
      (compare_follows aligned _ combinator column operator value).within builder
  | .membership combinator negated column values =>
      (membership_follows aligned _ combinator negated column values).within builder
  | .between combinator negated column low high =>
      (between_follows aligned _ combinator negated column low high).within builder
  | .nullTest combinator negated column =>
      (nullTest_follows aligned _ combinator negated column).within builder
  | .whereRaw combinator sql values =>
      (whereRaw_follows aligned combinator sql values).within builder
  | .group combinator calls => by
      have inner := Builder.applyAll_follows
        { profile := builder.profile, cacheable := builder.cacheable } aligned_empty calls
      simp only [Builder.apply, Builder.clauses_with?, Draft.apply]
      change Follows _ ((Draft.applyAll builder.profile ({} : Clauses).draft calls).map _)
      rw [← inner.same]
      cases found : Builder.applyAll
          { profile := builder.profile, cacheable := builder.cacheable } calls with
      | error error => exact Follows.refused error
      | ok reached =>
          exact addGroup_follows aligned combinator (inner.aligned _ (by rw [found]; rfl))
  | .whereDate column operator date =>
      (whereDate_follows aligned _ column operator date).within builder
  | .whereYear column operator year =>
      (compareDatePart_follows aligned _ .year column operator _).within builder
  | .whereMonth column operator month =>
      (whereMonth_follows aligned _ column operator month).within builder
  | .whereDay column operator day =>
      (whereDay_follows aligned _ column operator day).within builder
  | .whereToday column =>
      (whereToday_follows aligned _ column).within builder
  | .whereYesterday column =>
      (whereYesterday_follows aligned _ column).within builder
  | .whereLastDays column days =>
      (whereLastDays_follows aligned _ column days).within builder
  | .whereBetweenDates column start stop =>
      (whereBetweenDates_follows aligned _ column start stop).within builder
  | .insert records =>
      (insertMany_follows aligned _ records).within builder
  | .update changes =>
      (updateWith_follows aligned _ changes).within builder
  | .delete =>
      (deleteRows_follows aligned).within builder
  | .raw sql values =>
      (withRaw_follows aligned sql values).within builder
  | .cache options => by
      simp only [Builder.apply, Builder.clauses_cached, Draft.apply]
      cases options.check with
      | error error => exact Follows.refused error
      | ok _ => exact Follows.ok aligned rfl
  | .noCache => Follows.ok aligned rfl
  | .encrypt _ => Follows.ok aligned rfl

theorem Builder.applyAll_follows (builder : Builder) (aligned : builder.clauses.Aligned) :
    ∀ calls : List Call, Follows ((builder.applyAll calls).map Builder.clauses)
      (builder.clauses.draft.applyAll builder.profile calls)
  | [] => Follows.ok aligned rfl
  | call :: rest => by
      have step := Builder.apply_follows builder aligned call
      simp only [Builder.applyAll, Draft.applyAll]
      rw [← step.same]
      cases found : builder.apply call with
      | error error => exact Follows.refused error
      | ok next =>
          have further := Builder.applyAll_follows next (step.aligned _ (by rw [found]; rfl)) rest
          rw [(Builder.apply_kind found).1] at further
          exact further

end

end BoundQuery
