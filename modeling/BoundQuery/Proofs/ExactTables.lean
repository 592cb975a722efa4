import BoundQuery.Proofs.ClauseOrder
import BoundQuery.Proofs.Freshness
import BoundQuery.Proofs.NamelessPieces
import BoundQuery.Proofs.PlaceholderBindings
import BoundQuery.Proofs.ReadThrough

/-!
The tables that are found in the text of a query are its own: the one it reads from and those that
it joins, in this order and each once. Only where PostgreSQL compares the year, the month or the day
of a column is the column found as well, as if it were a table.
-/

set_option autoImplicit false

namespace BoundQuery

theorem Dialect.corresponds_parting (dialect : Dialect) :
    dialect.profile.Corresponds dialect.profile IsPlainName (fun _ _ => False)
      (fun own _ => Parting own.toList) (fun _ _ => True) where
  table plain := Agree.of_ok fun _ accepted => Dialect.parting_table plain accepted
  column plain := Agree.of_ok fun _ accepted => Dialect.parting_column plain accepted
  aliasName plain := Agree.of_ok fun _ accepted => Dialect.parting_aliasName plain accepted
  compared operator first second := by
    have left := first.closed (parting_operator operator)
    rw [← String.append_assoc, ← String.append_assoc] at left
    exact left.closed second
  named first second := (first.closed (by decide)).closed second
  joined allowed _ := allowed.elim
  ordered allowed _ := allowed.elim
  comparison _ _ _ := Agree.of_ok fun _ _ => trivial
  membership _ _ _ := Agree.of_ok fun _ _ => trivial
  between _ _ _ _ := Agree.of_ok fun _ _ => trivial
  nullTest _ _ := Agree.of_ok fun _ _ => trivial
  datePart _ _ _ _ := Agree.of_ok fun _ _ => trivial
  today _ := Agree.of_ok fun _ _ => trivial
  daysAgo _ _ _ := Agree.of_ok fun _ _ => trivial
  dateRange _ _ _ := Agree.of_ok fun _ _ => trivial
  having _ _ _ := Agree.of_ok fun _ _ => trivial
  rawCondition _ _ _ _ := trivial
  enclosed _ := trivial
  chain _ := trivial

/-- The table of the source and those of the joins, in their order. -/
structure Clauses.Tables (dialect : Dialect) (frame : Clauses) (source : Option String)
    (joined : List String) : Prop where
  source : Option.Rel (fun table own => dialect.profile.table table = .ok own.rendered)
    source frame.source
  joins : List.Forall₂ (fun table own => dialect.profile.table table = .ok own.table)
    joined frame.joins

namespace Clauses

variable {dialect : Dialect} {frame other : Clauses}

theorem nameless_projectionText
    (parting : frame.Related (fun own _ => Parting own.toList) other) :
    Nameless frame.projectionText.toList := by
  have distinct : Parting ("SELECT " ++ if frame.distinct then "DISTINCT " else "").toList := by
    cases frame.distinct with
    | _ => decide
  refine distinct.followed ?_
  split
  · decide
  · exact nameless_commaSeparated (forall_of_related parting.columns fun own => own.nameless)

theorem nameless_groupText (parting : frame.Related (fun own _ => Parting own.toList) other) :
    Nameless frame.groupText.toList := by
  unfold groupText
  split
  · exact Nameless.nothing
  · exact Parting.followed (by decide)
      (nameless_commaSeparated (forall_of_related parting.groups fun own => own.nameless))

theorem nameless_orderText (parting : frame.Related (fun own _ => Parting own.toList) other) :
    Nameless frame.orderText.toList := by
  unfold orderText
  split
  · exact Nameless.nothing
  · refine Parting.followed (by decide) (nameless_commaSeparated fun text member => ?_)
    obtain ⟨order, listed, rfl⟩ := List.mem_map.mp member
    have own : Parting order.column.toList :=
      forall_of_related parting.orders (fun same => same.column) order listed
    unfold Order.text
    split
    · exact own.nameless
    · refine (own.closed (by decide)).followed ?_
      cases order.direction with
      | _ => decide

theorem nameless_pagingText (dialect : Dialect) (frame : Clauses) :
    Nameless (frame.pagingText dialect.profile).toList := by
  unfold pagingText
  dsimp only
  split
  · exact Nameless.nothing
  · exact Parting.followed (by decide) (dialect.nameless_paging _ _ _)

theorem finds_table {table rendered : String} (plain : IsPlainName table)
    (accepted : dialect.profile.table table = .ok rendered) {word : List Char}
    (keyword : word ∈ readWords) :
    Finds (' ' :: (word ++ ' ' :: rendered.toList)) [lastSegment table] := by
  obtain ⟨part, others, split, plainParts⟩ := plain.parts
  rw [table_plain plain accepted, split, lastSegment_of_parts split]
  exact (finds_written dialect.marks_proper keyword part others plainParts).space

theorem finds_source {source : Source} {table : String} (plain : IsPlainName table)
    (accepted : dialect.profile.table table = .ok source.rendered)
    (named : ∀ aliasName, source.aliasName = some aliasName → Parting aliasName.toList) :
    Finds source.text.toList [lastSegment table] := by
  have keyword : "FROM".toList ∈ readWords := List.mem_cons_self
  have found := finds_table plain accepted keyword
  have text : (" FROM " ++ source.rendered).toList =
      ' ' :: ("FROM".toList ++ ' ' :: source.rendered.toList) := by
    simp
  unfold Source.text
  rw [String.toList_append, text]
  cases shown : source.aliasName with
  | none =>
      rw [String.toList_empty, List.append_nil]
      exact found
  | some aliasName =>
      have lead : Parting " AS ".toList := by decide
      have behind := lead.followed (named aliasName shown).nameless
      refine found.append behind.finds ?_
      rw [String.toList_append]
      exact Clear.space _

theorem finds_join {join : Join} {table : String} (plain : IsPlainName table)
    (accepted : dialect.profile.table table = .ok join.table)
    (compared : ∀ condition, join.condition = some condition → Parting condition.toList) :
    Finds join.text.toList [lastSegment table] := by
  have keyword : "JOIN".toList ∈ readWords := List.mem_cons_of_mem _ List.mem_cons_self
  have found := finds_table plain accepted keyword
  obtain ⟨kind, lead, split⟩ : ∃ kind, Nameless kind ∧
      (" " ++ join.kind.text ++ " ").toList = kind ++ " JOIN ".toList := by
    cases join.kind with
    | inner => exact ⟨" INNER".toList, by decide, rfl⟩
    | left => exact ⟨" LEFT".toList, by decide, rfl⟩
    | right => exact ⟨" RIGHT".toList, by decide, rfl⟩
    | full => exact ⟨" FULL".toList, by decide, rfl⟩
    | cross => exact ⟨" CROSS".toList, by decide, rfl⟩
  have named := lead.finds.append found (Clear.space _)
  have text : (" " ++ join.kind.text ++ " " ++ join.table).toList =
      kind ++ ' ' :: ("JOIN".toList ++ ' ' :: join.table.toList) := by
    rw [String.toList_append, split]
    simp
  unfold Join.text
  rw [String.toList_append, text]
  cases given : join.condition with
  | none =>
      rw [String.toList_empty, List.append_nil]
      exact named
  | some condition =>
      have on : Parting " ON ".toList := by decide
      refine named.append (on.followed (compared condition given).nameless).finds ?_
      rw [String.toList_append]
      exact Clear.space _

theorem finds_joins {joins : List Join} {tables : List String}
    (named : List.Forall₂ (fun table own => dialect.profile.table table = .ok own.table)
      tables joins)
    (plain : ∀ table ∈ tables, IsPlainName table)
    (compared : ∀ join ∈ joins, ∀ condition, join.condition = some condition →
      Parting condition.toList) :
    Finds (String.join (joins.map Join.text)).toList (tables.map lastSegment) := by
  induction named with
  | nil => exact Nameless.nothing.finds
  | cons accepted _ ih =>
      obtain ⟨table, tables⟩ := List.forall_mem_cons.mp plain
      obtain ⟨condition, conditions⟩ := List.forall_mem_cons.mp compared
      rw [List.map_cons, String.join_cons, String.toList_append]
      exact (finds_join table accepted condition).append (ih tables conditions) (clear_joins _)

theorem finds_sourceText (parting : frame.Related (fun own _ => Parting own.toList) other)
    {source : Option String} {joined : List String} (tables : frame.Tables dialect source joined)
    (plain : ∀ table ∈ source.toList ++ joined, IsPlainName table) :
    Finds frame.sourceText.toList ((source.toList ++ joined).map lastSegment) := by
  obtain ⟨own, others⟩ := List.forall_mem_append.mp plain
  have first : Finds (frame.source.elim "" Source.text).toList
      (source.toList.map lastSegment) := by
    have named := tables.source
    have parted := parting.source
    generalize frame.source = held at named parted ⊢
    cases named with
    | none => exact Nameless.nothing.finds
    | some accepted =>
        obtain ⟨_, _, same⟩ := exists_of_related parted rfl
        refine finds_source (own _ List.mem_cons_self) accepted fun aliasName shown => ?_
        exact (exists_of_related same.aliasName shown).choose_spec.2
  have further := finds_joins tables.joins others
    (forall_of_related parting.joins fun same condition given =>
      (exists_of_related same.condition given).choose_spec.2)
  rw [frame.sourceText_eq, String.toList_append, List.map_append]
  exact first.append further (clear_joins frame.joins)

end Clauses

theorem Draft.clear_sourceText (frame : Clauses) : Clear frame.sourceText.toList := by
  rw [frame.sourceText_eq, String.toList_append]
  refine Clear.append ?_ (clear_joins frame.joins)
  cases frame.source with
  | none => exact Clear.nil
  | some source =>
      obtain ⟨behind, _, text⟩ := source.text_split
      rw [Option.elim_some, text]
      exact Clear.space _

/-! ### Calls -/

theorem Heading.tables {dialect : Dialect} {call : Call} {before after : Clauses}
    {source : Option String} {joined : List String} (heading : Heading dialect call before after)
    (tables : before.Tables dialect source joined) :
    after.Tables dialect (call.source?.or source) (joined ++ call.joined?.toList) := by
  cases heading with
  | source table rendered aliasName _ named written own _ joins other =>
      refine ⟨?_, ?_⟩
      · rw [named, own]
        exact .some written
      · rw [other, joins, Option.toList_none, List.append_nil]
        exact tables.joins
  | join table join _ named written own _ source other =>
      refine ⟨?_, ?_⟩
      · rw [other, source]
        exact tables.source
      · rw [named, own]
        exact List.rel_append tables.joins (.cons written .nil)
  | columns _ _ source joins neither =>
      rw [neither.1, neither.2, Option.toList_none, List.append_nil]
      refine ⟨?_, ?_⟩
      · rw [source]
        exact tables.source
      · rw [joins]
        exact tables.joins

namespace Call

/-- The table from which a program of calls reads, which is the last that is named. -/
def lastSource (calls : List Call) : Option String :=
  (calls.filterMap source?).getLast?

def allJoined (calls : List Call) : List String :=
  calls.filterMap joined?

theorem lastSource_cons (call : Call) (rest : List Call) :
    lastSource (call :: rest) = (lastSource rest).or call.source? := by
  unfold lastSource
  rw [List.filterMap_cons]
  cases call.source? with
  | none => exact (Option.or_none).symm
  | some table =>
      dsimp only
      rw [List.getLast?_cons]
      cases (rest.filterMap source?).getLast? with
      | _ => rfl

theorem allJoined_cons (call : Call) (rest : List Call) :
    allJoined (call :: rest) = call.joined?.toList ++ allJoined rest := by
  unfold allJoined
  rw [List.filterMap_cons]
  cases call.joined? with
  | _ => rfl

theorem source_mem_names {call : Call} {table : String} (named : call.source? = some table) :
    table ∈ call.names := by
  cases call with
  | readFrom table =>
      cases named
      exact List.mem_cons_self
  | readFromAs table aliasName =>
      cases named
      exact List.mem_cons_self
  | _ => cases named

theorem joined_mem_names {call : Call} {table : String} (named : call.joined? = some table) :
    table ∈ call.names := by
  cases call with
  | join kind table first operator second =>
      cases named
      exact List.mem_cons_self
  | crossJoin table =>
      cases named
      exact List.mem_cons_self
  | joinRaw kind table condition =>
      cases named
      exact List.mem_cons_self
  | _ => cases named

mutual

/-- The columns of which a call compares the year, the month or the day, those of a group
included. -/
def dated : Call → List String
  | whereYear column _ _ => [column]
  | whereMonth column _ _ => [column]
  | whereDay column _ _ => [column]
  | group _ calls => allDated calls
  | _ => []

def allDated : List Call → List String
  | [] => []
  | call :: rest => dated call ++ allDated rest

end

mutual

theorem dated_subset (call : Call) : call.dated ⊆ call.names := by
  unfold dated names
  cases call with
  | whereYear column operator year => exact List.Subset.refl _
  | whereMonth column operator month => exact List.Subset.refl _
  | whereDay column operator day => exact List.Subset.refl _
  | group combinator calls => exact allDated_subset calls
  | _ => exact List.nil_subset _

theorem allDated_subset (calls : List Call) : allDated calls ⊆ allNames calls := by
  unfold allDated allNames
  cases calls with
  | nil => exact List.nil_subset _
  | cons call rest =>
      exact List.append_subset.mpr ⟨List.subset_append_of_subset_left _ (dated_subset call),
        List.subset_append_of_subset_right _ (allDated_subset rest)⟩

end

theorem tables_subset (calls : List Call) :
    (lastSource calls).toList ++ allJoined calls ++ allDated calls ⊆ allNames calls := by
  refine List.append_subset.mpr ⟨List.append_subset.mpr ⟨?_, ?_⟩, allDated_subset calls⟩
  · intro table member
    have last := List.mem_of_getLast? (Option.mem_toList.mp member)
    obtain ⟨call, listed, named⟩ := List.mem_filterMap.mp last
    exact mem_allNames.mpr ⟨call, listed, source_mem_names named⟩
  · intro table member
    obtain ⟨call, listed, named⟩ := List.mem_filterMap.mp member
    exact mem_allNames.mpr ⟨call, listed, joined_mem_names named⟩

end Call

namespace Draft

variable {dialect : Dialect} {draft next : Draft}

theorem applyAll_tables {calls : List Call} : ∀ {draft next : Draft} {source : Option String}
    {joined : List String}, draft.frame.Tables dialect source joined →
      draft.applyAll dialect.profile calls = .ok next →
        next.frame.Tables dialect ((Call.lastSource calls).or source)
          (joined ++ Call.allJoined calls) := by
  induction calls with
  | nil =>
      intro draft next source joined tables applied
      cases applied
      rw [Call.allJoined, List.filterMap_nil, List.append_nil]
      exact tables
  | cons call rest ih =>
      intro draft next source joined tables applied
      obtain ⟨middle, own, further⟩ := applyAll_cons_ok applied
      have first := (apply_heading own).tables tables
      rw [Call.lastSource_cons, Call.allJoined_cons, Option.or_assoc, ← List.append_assoc]
      exact ih first further

/-- Of these columns, those behind a `FROM` are found in the conditions of the draft, and nothing
else. -/
structure Shows (dialect : Dialect) (columns : List String) (draft : Draft) : Prop where
  wheres : dialect.Shows columns (Piece.chain draft.wheres)
  havings : dialect.Shows [] (Piece.chain draft.havings)

namespace Shows

variable {columns more : List String}

theorem nothing : ({} : Draft).Shows dialect [] :=
  ⟨Dialect.shows_nothing fun _ => Nameless.nothing, Dialect.shows_nothing fun _ => Nameless.nothing⟩

theorem addWhere (shown : draft.Shows dialect columns) (combinator : Combinator)
    {pieces : List Piece} (own : dialect.Shows more pieces) :
    (draft.addWhere combinator pieces).Shows dialect (columns ++ more) :=
  ⟨shown.wheres.concat combinator own, shown.havings⟩

theorem filtered (shown : draft.Shows dialect columns) {combinator : Combinator}
    {made : Except QueryError (List Piece)}
    (own : ∀ {pieces}, made = .ok pieces → dialect.Shows more pieces)
    (applied : draft.filtered combinator made = .ok next) :
    next.Shows dialect (columns ++ more) := by
  obtain ⟨pieces, same, reached⟩ := exists_of_map_ok applied
  rw [← reached]
  exact shown.addWhere combinator (own same)

theorem addHaving (shown : draft.Shows dialect columns)
    {made : Except QueryError (List Piece)}
    (own : ∀ {pieces}, made = .ok pieces → dialect.Shows [] pieces)
    (applied : made.map draft.addHaving = .ok next) : next.Shows dialect (columns ++ []) := by
  obtain ⟨pieces, same, reached⟩ := exists_of_map_ok applied
  rw [← reached, List.append_nil]
  exact ⟨shown.wheres, shown.havings.concat .and (own same)⟩

theorem addGroup (shown : draft.Shows dialect columns) (combinator : Combinator) {inner : Draft}
    (own : inner.Shows dialect more) :
    (draft.addGroup combinator inner).Shows dialect (columns ++ more) := by
  unfold Draft.addGroup
  split
  · rename_i empty
    have wheres := own.wheres
    rw [List.isEmpty_iff.mp empty] at wheres
    refine ⟨fun number => ?_, shown.havings⟩
    rw [dialect.behindFrom_append, List.map_append, Dialect.shows_nil_iff.mp wheres,
      List.append_nil]
    exact shown.wheres number
  · exact shown.addWhere combinator own.wheres.enclosed

theorem kept {call : Call} (shown : draft.Shows dialect columns)
    (applied : draft.apply dialect.profile call = .ok next)
    (other : call.clause ≠ .wheres ∧ call.clause ≠ .havings) :
    next.Shows dialect (columns ++ []) := by
  have wheres : next.content .wheres = draft.content .wheres := content_apply applied other.1
  have havings : next.content .havings = draft.content .havings := content_apply applied other.2
  change next.wheres = draft.wheres at wheres
  change next.havings = draft.havings at havings
  rw [List.append_nil]
  constructor
  · rw [wheres]
    exact shown.wheres
  · rw [havings]
    exact shown.havings

end Shows

mutual

theorem apply_shows (call : Call) {draft next : Draft} {columns : List String}
    (shown : draft.Shows dialect columns) (plain : ∀ name ∈ call.names, IsPlainName name)
    (bare : call.raws = []) (applied : draft.apply dialect.profile call = .ok next) :
    next.Shows dialect (columns ++ call.dated) := by
  unfold Call.names at plain
  unfold Call.dated
  cases call with
  | having column operator value =>
      simp only [apply] at applied
      exact shown.addHaving (Dialect.shows_having (plain _ List.mem_cons_self)) applied
  | compare combinator column operator value =>
      simp only [apply] at applied
      exact shown.filtered (Dialect.shows_comparison (plain _ List.mem_cons_self)) applied
  | membership combinator negated column values =>
      simp only [apply] at applied
      exact shown.filtered (Dialect.shows_membership (plain _ List.mem_cons_self)) applied
  | between combinator negated column low high =>
      simp only [apply] at applied
      exact shown.filtered (Dialect.shows_between (plain _ List.mem_cons_self)) applied
  | nullTest combinator negated column =>
      simp only [apply] at applied
      exact shown.filtered (Dialect.shows_nullTest (plain _ List.mem_cons_self)) applied
  | group combinator calls =>
      unfold Call.raws at bare
      simp only [apply] at applied
      obtain ⟨inner, own, reached⟩ := exists_of_map_ok applied
      rw [← reached]
      exact shown.addGroup combinator (applyAll_shows calls Shows.nothing plain bare own)
  | whereDate column operator date =>
      simp only [apply] at applied
      refine shown.filtered (fun made => ?_) applied
      obtain ⟨value, _, own⟩ := exists_of_bind_ok made
      exact Dialect.shows_date (plain _ List.mem_cons_self) own
  | whereYear column operator year =>
      simp only [apply] at applied
      refine shown.filtered (fun made => ?_) applied
      exact Dialect.shows_datePart (plain _ List.mem_cons_self) made nofun
  | whereMonth column operator month =>
      simp only [apply, Piece.month] at applied
      refine shown.filtered (fun made => ?_) applied
      split at made
      · exact Dialect.shows_datePart (plain _ List.mem_cons_self) made nofun
      · cases made
  | whereDay column operator day =>
      simp only [apply, Piece.day] at applied
      refine shown.filtered (fun made => ?_) applied
      split at made
      · exact Dialect.shows_datePart (plain _ List.mem_cons_self) made nofun
      · cases made
  | whereToday column =>
      simp only [apply] at applied
      exact shown.filtered (Dialect.shows_relativeDate (plain _ List.mem_cons_self) (by decide)
        dialect.nameless_currentDate) applied
  | whereYesterday column =>
      simp only [apply] at applied
      exact shown.filtered (Dialect.shows_relativeDate (plain _ List.mem_cons_self) (by decide)
        (dialect.nameless_dateMinusDays 1)) applied
  | whereLastDays column days =>
      simp only [apply] at applied
      exact shown.filtered (Dialect.shows_relativeDate (plain _ List.mem_cons_self) (by decide)
        (dialect.nameless_dateMinusDays days)) applied
  | whereBetweenDates column start stop =>
      simp only [apply] at applied
      exact shown.filtered (Dialect.shows_dateRange (plain _ List.mem_cons_self)) applied
  | havingRaw sql values => exact absurd bare (List.cons_ne_nil _ _)
  | whereRaw combinator sql values => exact absurd bare (List.cons_ne_nil _ _)
  | _ =>
      refine shown.kept applied ⟨fun own => ?_, fun own => ?_⟩
      · cases own
      · cases own

theorem applyAll_shows (calls : List Call) {draft next : Draft} {columns : List String}
    (shown : draft.Shows dialect columns) (plain : ∀ name ∈ Call.allNames calls, IsPlainName name)
    (bare : Call.allRaws calls = []) (applied : draft.applyAll dialect.profile calls = .ok next) :
    next.Shows dialect (columns ++ Call.allDated calls) := by
  unfold Call.allNames at plain
  unfold Call.allRaws at bare
  unfold Call.allDated
  cases calls with
  | nil =>
      cases applied
      rw [List.append_nil]
      exact shown
  | cons call rest =>
      obtain ⟨first, others⟩ := List.forall_mem_append.mp plain
      obtain ⟨none, further⟩ := List.append_eq_nil_iff.mp bare
      obtain ⟨middle, own, run⟩ := applyAll_cons_ok applied
      have step := apply_shows call shown first none own
      rw [← List.append_assoc]
      exact applyAll_shows rest step others further run

end

/-! ### Statements -/

variable {source : Option String} {joined columns : List String}

theorem finds_headText (parting : draft.frame.Related (fun own _ => Parting own.toList) draft.frame)
    (tables : draft.frame.Tables dialect source joined)
    (plain : ∀ table ∈ source.toList ++ joined, IsPlainName table) :
    Finds draft.headText.toList ((source.toList ++ joined).map lastSegment) := by
  have projection := Clauses.nameless_projectionText parting
  unfold headText
  rw [String.toList_append]
  exact projection.finds.append (Clauses.finds_sourceText parting tables plain)
    (clear_sourceText draft.frame)

theorem finds_tail (parting : draft.frame.Related (fun own _ => Parting own.toList) draft.frame)
    (shown : draft.Shows dialect columns) (number : Nat) :
    Finds (Piece.writeFrom dialect.profile.placeholder number
      (draft.tailPieces dialect.profile)) [] := by
  have havings := shown.havings.conditions (by decide : Nameless (" " ++ "HAVING").toList) number
  have orders := (Clauses.nameless_orderText parting).finds.append
    (Clauses.nameless_pagingText dialect draft.frame).finds (clear_pagingText draft.frame)
  rw [dialect.behindFrom_nil] at havings
  unfold tailPieces
  rw [List.cons_append, Piece.writeFrom, Piece.writeFrom_append, Piece.writeFrom, Piece.writeFrom,
    List.append_nil, String.toList_append]
  have ending : Clear (draft.frame.orderText.toList ++
      (draft.frame.pagingText dialect.profile).toList) :=
    (clear_orderText draft.frame).append (clear_pagingText draft.frame)
  have behind := havings.append orders ending
  exact (Clauses.nameless_groupText parting).finds.append behind
    ((clear_conditions "HAVING" draft.havings number).append ending)

/-- In the text of a query stand its tables and then the columns behind a `FROM` of its own. -/
theorem finds_pieces (idle : draft.isWrite = false)
    (parting : draft.frame.Related (fun own _ => Parting own.toList) draft.frame)
    (tables : draft.frame.Tables dialect source joined)
    (plain : ∀ table ∈ source.toList ++ joined, IsPlainName table)
    (shown : draft.Shows dialect columns) (number : Nat) :
    Finds (Piece.writeFrom dialect.profile.placeholder number (draft.pieces dialect.profile))
      ((source.toList ++ joined ++ dialect.behindFrom columns).map lastSegment) := by
  rw [pieces_of_idle idle, List.cons_append, Piece.writeFrom, Piece.writeFrom_append,
    List.map_append]
  have head := finds_headText parting tables plain
  have wheres := shown.wheres.conditions (by decide : Nameless (" " ++ "WHERE").toList) number
  have behind (later : Nat) :=
    wheres.append (finds_tail parting shown later) (clear_tail draft later)
  simp only [List.append_nil] at behind
  exact head.append (behind _) ((clear_conditions "WHERE" draft.wheres number).append
    (clear_tail draft _))

end Draft

theorem nodup_firstOccurrences (texts : List String) : (firstOccurrences texts).Nodup := by
  induction texts with
  | nil => exact List.nodup_nil
  | cons text rest ih =>
      refine List.nodup_cons.mpr ⟨fun member => ?_, ih.filter _⟩
      have differs := (List.mem_filter.mp member).2
      rw [bne_self_eq_false] at differs
      cases differs

theorem referencedTables_of_finds {sql : String} {tables : List String}
    (found : Finds sql.toList (tables.map lastSegment)) :
    referencedTables sql = firstOccurrences (tables.map tableLabel) := by
  unfold referencedTables
  rw [found.whole, List.map_map]
  rfl

/-- A result of the statement that is stored under a key of no table yet is one of these tables and
of no other. -/
def Statement.IndexedUnder (statement : Statement) (tables : List String) : Prop :=
  ∀ {World : Type} (cache : ResultCache World) (directive : CacheDirective)
    (output : QueryOutput) (session after : Session World),
    cache.storeOutput statement directive output session = (true, after) →
      (∀ name, cache.keyFor statement directive ∉ session.cache.tables.keysFor name) →
        ∀ name, cache.keyFor statement directive ∈ after.cache.tables.keysFor name ↔
          ∃ table ∈ tables, Text.lower name = tableLabel table

theorem indexedUnder_of_referenced {statement : Statement} {tables : List String}
    (plain : ∀ table ∈ tables, IsPlainName table)
    (found : referencedTables statement.sql = firstOccurrences (tables.map tableLabel)) :
    statement.IndexedUnder tables := by
  intro World cache directive output session after stored unfiled name
  have recorded := cache.storeOutput_recorded session stored
  rw [recorded, found]
  refine (KeyIndex.mem_keysFor_foldl_insert_iff _).trans ?_
  constructor
  · rintro (before | ⟨_, label, listed, same⟩)
    · exact absurd before (unfiled name)
    · obtain ⟨table, member, rfl⟩ := List.mem_map.mp (mem_firstOccurrences.mp listed)
      exact ⟨table, member, same.trans (lower_tableLabel (plain table member))⟩
  · rintro ⟨table, member, same⟩
    refine .inr ⟨rfl, tableLabel table, ?_, ?_⟩
    · exact mem_firstOccurrences.mpr (List.mem_map_of_mem member)
    · exact same.trans (lower_tableLabel (plain table member)).symm

/-- Where calls take no SQL of their own and name nothing but plain names, the tables found in the
statement of a query are exactly those of the query: the last one that it was told to read from and
those that it joins, in this order and each once. A result that is stored stands under these and
under no other. For PostgreSQL the columns of which the year, the month or the day is compared are
among them, behind the tables. -/
theorem tables_of_query_are_found_exactly (dialect : Dialect) (cacheable : Bool)
    (calls : List Call) (builder : Builder)
    (plain : ∀ call ∈ calls, ∀ name ∈ call.names, IsPlainName name)
    (structured : ∀ call ∈ calls, call.raws = [])
    (reached : ({ profile := dialect.profile, cacheable := cacheable } : Builder).applyAll calls =
      .ok builder)
    (query : builder.clauses.isWrite = false) :
    let tables := (Call.lastSource calls).toList ++ Call.allJoined calls ++
      if dialect = .postgresql then Call.allDated calls else []
    ∃ statement, builder.statement = .ok statement ∧
      referencedTables statement.sql = firstOccurrences (tables.map tableLabel) ∧
      (referencedTables statement.sql).Nodup ∧ statement.IndexedUnder tables := by
  intro tables
  have bare : ∀ call ∈ calls, ∀ raw : RawPlace × String, raw ∉ call.raws := by
    intro call listed raw member
    rw [structured call listed] at member
    cases member
  have none : Call.allRaws calls = [] := by
    refine List.eq_nil_iff_forall_not_mem.mpr fun raw member => ?_
    obtain ⟨call, listed, inside⟩ := Call.mem_allRaws.mp member
    exact bare call listed raw inside
  have named : ∀ name ∈ Call.allNames calls, IsPlainName name := by
    intro name member
    obtain ⟨call, listed, inside⟩ := Call.mem_allNames.mp member
    exact plain call listed name inside
  have compiled := statement_of_structured
    (fun call listed raw inside => absurd inside (bare call listed raw)) reached
  obtain ⟨_, _, meant⟩ := Builder.reached_draft reached
  let draft := builder.clauses.draft
  have idle : draft.isWrite = false := by rw [Clauses.draft_isWrite, query]
  have parting : draft.frame.Related (fun own _ => Parting own.toList) draft.frame := by
    have agree := Draft.applyAll_related dialect.corresponds_parting calls Draft.related_nothing
      named (by rw [none]; nofun)
    rw [meant] at agree
    exact agree.ok_ok.frame
  have frame : draft.frame.Tables dialect (Call.lastSource calls) (Call.allJoined calls) := by
    have start : ({} : Draft).frame.Tables dialect Option.none [] := ⟨.none, .nil⟩
    have run := Draft.applyAll_tables start meant
    rw [Option.or_none, List.nil_append] at run
    exact run
  have shown : draft.Shows dialect (Call.allDated calls) :=
    Draft.applyAll_shows calls Draft.Shows.nothing named none meant
  have listed : ∀ table ∈ tables, IsPlainName table := by
    intro table member
    refine named table (Call.tables_subset calls ?_)
    refine (List.mem_append.mp member).elim (List.mem_append_left _) fun dated => ?_
    split at dated
    · exact List.mem_append_right _ dated
    · cases dated
  have own : ∀ table ∈ (Call.lastSource calls).toList ++ Call.allJoined calls,
      IsPlainName table :=
    (List.forall_mem_append.mp listed).1
  have found : referencedTables (Piece.statement dialect.profile
      (draft.pieces dialect.profile)).sql = firstOccurrences (tables.map tableLabel) := by
    refine referencedTables_of_finds ?_
    rw [Piece.statement, String.toList_ofList]
    exact Draft.finds_pieces idle parting frame own shown 1
  refine ⟨_, compiled, found, ?_, indexedUnder_of_referenced listed found⟩
  rw [found]
  exact nodup_firstOccurrences _

def overdueOrders : List Call :=
  [.readFrom "archive", .readFromAs "sales.Orders" "o", .selectAliased [("placed", "o.placed")],
    .join .left "teams" "o.team" "=" "teams.id", .crossJoin "crm.Teams",
    .group .or [.whereYear "placed" "=" 2024, .group .and [.whereDay "due" "<" 9]],
    .whereLastDays "placed" 30, .membership .and true "state" [.int 1, .int 2],
    .groupBy ["joined"], .having "total" ">" (.int 5), .orderBy "update" .ascending, .offset 10]

/-- The table that is read and one that is joined, by two of its names. -/
theorem tables_of_overdue_orders :
    ∃ builder : Builder,
      ({ profile := Dialect.mssql.profile } : Builder).applyAll overdueOrders = .ok builder ∧
      ∃ statement, builder.statement = .ok statement ∧
        referencedTables statement.sql = ["orders", "teams"] ∧
        statement.IndexedUnder ["sales.Orders", "teams", "crm.Teams"] := by
  have accepted : (({ profile := Dialect.mssql.profile } : Builder).applyAll
      overdueOrders).isOk := by
    decide +kernel
  have query : ((({ profile := Dialect.mssql.profile } : Builder).applyAll
      overdueOrders).toOption.all fun builder => !builder.clauses.isWrite) = true := by
    decide +kernel
  obtain ⟨builder, reached⟩ := ok_of_isOk accepted
  rw [reached] at query
  obtain ⟨statement, compiled, found, _, indexed⟩ := tables_of_query_are_found_exactly .mssql false
    overdueOrders builder (by decide +kernel) (by decide +kernel) reached
    (Bool.not_eq_true' _ ▸ query)
  refine ⟨builder, reached, statement, compiled, found.trans (by decide +kernel), indexed⟩

def foundTables (dialect : Dialect) (calls : List Call) : Option (List String) :=
  ((({ profile := dialect.profile } : Builder).applyAll calls).bind Builder.statement).toOption.map
    fun statement => referencedTables statement.sql

/-- A query of users has a table of users, and for PostgreSQL one more, which is a column. -/
theorem column_is_found_as_table :
    foundTables .postgresql [.readFrom "users", .whereYear "created_at" "=" 2024] =
        some ["users", "created_at"] ∧
      foundTables .mysql [.readFrom "users", .whereYear "created_at" "=" 2024] =
        some ["users"] := by
  decide +kernel

end BoundQuery
