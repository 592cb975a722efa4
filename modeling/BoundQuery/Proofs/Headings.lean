import BoundQuery.Proofs.Draft
import BoundQuery.Proofs.Numbering
import BoundQuery.Proofs.PlainNames

/-!
What stands in front of the conditions of a query: projection, source and joins. Where the calls
name nothing but plain names there, every table of the query is found again in its text, in each of
the forms in which a query is sent.
-/

set_option autoImplicit false

namespace BoundQuery

theorem Clauses.sourceText_eq (frame : Clauses) :
    frame.sourceText =
      frame.source.elim "" Source.text ++ String.join (frame.joins.map Join.text) := by
  unfold sourceText
  cases frame.source with
  | _ => rfl

namespace Call

def source? : Call → Option String
  | readFrom table => some table
  | readFromAs table _ => some table
  | _ => none

def joined? : Call → Option String
  | join _ table _ _ _ => some table
  | crossJoin table => some table
  | joinRaw _ table _ => some table
  | _ => none

/-- A column that is selected has a plain name or an alias, and no raw statement goes in the place
of the query. -/
def Plain : Call → Prop
  | select columns => ∀ column ∈ columns, IsPlainName column
  | selectColumns text =>
      ∀ stretch ∈ text.toList.splitOn ',', Text.trimChars stretch ≠ [] →
        IsPlainName (String.ofList (Text.trimChars stretch))
  | addSelect columns => ∀ column ∈ columns, IsPlainName column
  | raw _ _ => False
  | _ => True

end Call

/-! ### What a call does to them -/

inductive Heading (dialect : Dialect) (call : Call) (before : Clauses) : Clauses → Prop where
  | source (table rendered : String) (aliasName : Option String) (after : Clauses)
      (named : call.source? = some table) (written : dialect.profile.table table = .ok rendered)
      (own : after.source = some ⟨Text.trim table, rendered, aliasName⟩)
      (columns : after.columns = before.columns) (joins : after.joins = before.joins)
      (other : call.joined? = none) :
      Heading dialect call before after
  | join (table : String) (join : Join) (after : Clauses) (named : call.joined? = some table)
      (written : dialect.profile.table table = .ok join.table)
      (own : after.joins = before.joins ++ [join])
      (columns : after.columns = before.columns) (source : after.source = before.source)
      (other : call.source? = none) :
      Heading dialect call before after
  | columns (after : Clauses)
      (quoted : call.Plain → (∀ column ∈ before.columns, EndsQuoted column.toList) →
        ∀ column ∈ after.columns, EndsQuoted column.toList)
      (source : after.source = before.source) (joins : after.joins = before.joins)
      (neither : call.source? = none ∧ call.joined? = none) : Heading dialect call before after

namespace Heading

variable {dialect : Dialect} {call : Call} {before after : Clauses}

theorem same (columns : after.columns = before.columns) (source : after.source = before.source)
    (joins : after.joins = before.joins) (neither : call.source? = none ∧ call.joined? = none) :
    Heading dialect call before after := by
  refine .columns after ?_ source joins neither
  intro _ quoted
  rw [columns]
  exact quoted

end Heading

theorem of_mem_mapM {Source Target : Type} {read : Source → Except QueryError Target}
    {items : List Source} :
    ∀ {results : List Target}, items.mapM read = .ok results →
      ∀ result ∈ results, ∃ item ∈ items, read item = .ok result := by
  induction items with
  | nil =>
      intro results done result member
      cases done
      cases member
  | cons item rest ih =>
      intro results done result member
      rw [List.mapM_cons] at done
      obtain ⟨first, own, further⟩ := exists_of_bind_ok done
      obtain ⟨others, read, same⟩ := exists_of_bind_ok further
      cases same
      rcases List.mem_cons.mp member with rfl | later
      · exact ⟨item, List.mem_cons_self, own⟩
      · obtain ⟨other, listed, found⟩ := ih read result later
        exact ⟨other, List.mem_cons_of_mem _ listed, found⟩

theorem columns_endQuoted {dialect : Dialect} {names columns : List String}
    (plain : ∀ name ∈ names, IsPlainName name)
    (accepted : dialect.profile.columns names = .ok columns) :
    ∀ column ∈ columns, EndsQuoted column.toList := by
  intro column member
  obtain ⟨name, listed, read⟩ := of_mem_mapM accepted column member
  exact column_endsQuoted (plain name listed) read

namespace Draft

variable {dialect : Dialect} {draft next : Draft}

theorem framed_ok {result : Except QueryError Clauses} (applied : draft.framed result = .ok next) :
    result = .ok next.frame := by
  cases result with
  | error error => cases applied
  | ok frame =>
      cases applied
      rfl

theorem filtered_frame {combinator : Combinator} {pieces : Except QueryError (List Piece)}
    (applied : draft.filtered combinator pieces = .ok next) : next.frame = draft.frame := by
  cases pieces with
  | error error => cases applied
  | ok pieces =>
      cases applied
      rfl

private theorem having_frame {pieces : Except QueryError (List Piece)}
    (applied : pieces.map draft.addHaving = .ok next) : next.frame = draft.frame := by
  cases pieces with
  | error error => cases applied
  | ok pieces =>
      cases applied
      rfl

private theorem cache_same {options : CacheOptions}
    (applied : options.check.map (fun _ => draft) = .ok next) : next = draft := by
  obtain ⟨_, _, same⟩ := exists_of_map_ok applied
  exact same.symm

private theorem group_frame {combinator : Combinator} {inner : Except QueryError Draft}
    (applied : inner.map (draft.addGroup combinator) = .ok next) :
    next.frame = draft.frame := by
  cases inner with
  | error error => cases applied
  | ok inner =>
      cases applied
      unfold addGroup
      split
      · rfl
      · rfl

private theorem readFrom_heading {table : String}
    (applied : draft.framed (draft.frame.readFrom dialect.profile table) = .ok next) :
    Heading dialect (.readFrom table) draft.frame next.frame := by
  obtain ⟨rendered, written, same⟩ := exists_of_bind_ok (framed_ok applied)
  have frame := (Except.ok.inj same).symm
  exact .source table rendered none next.frame rfl written (by rw [frame]) (by rw [frame])
    (by rw [frame]) rfl

private theorem readFromAs_heading {table aliasName : String}
    (applied : draft.framed (draft.frame.readFromAs dialect.profile table aliasName) = .ok next) :
    Heading dialect (.readFromAs table aliasName) draft.frame next.frame := by
  obtain ⟨rendered, written, further⟩ := exists_of_bind_ok (framed_ok applied)
  obtain ⟨named, _, same⟩ := exists_of_bind_ok further
  have frame := (Except.ok.inj same).symm
  exact .source table rendered (some named) next.frame rfl written (by rw [frame])
    (by rw [frame]) (by rw [frame]) rfl

private theorem select_heading {call : Call} {names : List String}
    (neither : call.source? = none ∧ call.joined? = none)
    (plain : call.Plain → ∀ name ∈ names, IsPlainName name)
    (applied : draft.framed (draft.frame.select dialect.profile names) = .ok next) :
    Heading dialect call draft.frame next.frame := by
  obtain ⟨columns, accepted, same⟩ := exists_of_bind_ok (framed_ok applied)
  have frame := (Except.ok.inj same).symm
  refine .columns next.frame ?_ (by rw [frame]) (by rw [frame]) neither
  intro own _
  rw [frame]
  exact columns_endQuoted (plain own) accepted

private theorem addSelect_heading {names : List String}
    (applied : draft.framed (draft.frame.addSelect dialect.profile names) = .ok next) :
    Heading dialect (.addSelect names) draft.frame next.frame := by
  obtain ⟨columns, accepted, same⟩ := exists_of_bind_ok (framed_ok applied)
  have frame := (Except.ok.inj same).symm
  refine .columns next.frame ?_ (by rw [frame]) (by rw [frame]) ⟨rfl, rfl⟩
  intro own before
  rw [frame]
  intro column member
  rcases List.mem_append.mp member with old | new
  · exact before column old
  · exact columns_endQuoted own accepted column new

private theorem selectAliased_heading {pairs : List (String × String)}
    (applied : draft.framed (draft.frame.selectAliased dialect.profile pairs) = .ok next) :
    Heading dialect (.selectAliased pairs) draft.frame next.frame := by
  obtain ⟨columns, accepted, same⟩ := exists_of_bind_ok (framed_ok applied)
  have frame := (Except.ok.inj same).symm
  refine .columns next.frame ?_ (by rw [frame]) (by rw [frame]) ⟨rfl, rfl⟩
  intro _ _
  rw [frame]
  intro column member
  obtain ⟨pair, _, read⟩ := of_mem_mapM accepted column member
  obtain ⟨rendered, _, further⟩ := exists_of_bind_ok read
  obtain ⟨named, quoted, written⟩ := exists_of_bind_ok further
  cases written
  rw [String.toList_append]
  exact (aliasName_endsQuoted quoted).append _

private theorem join_heading {kind : JoinKind} {table first operator second : String}
    (applied : draft.framed
      (draft.frame.join dialect.profile kind table first operator second) = .ok next) :
    Heading dialect (.join kind table first operator second) draft.frame next.frame := by
  obtain ⟨rendered, written, further⟩ := exists_of_bind_ok (framed_ok applied)
  obtain ⟨comparison, _, further⟩ := exists_of_bind_ok further
  obtain ⟨left, _, further⟩ := exists_of_bind_ok further
  obtain ⟨right, _, same⟩ := exists_of_bind_ok further
  have frame := (Except.ok.inj same).symm
  exact .join table _ next.frame rfl written (by rw [frame]) (by rw [frame]) (by rw [frame]) rfl

private theorem crossJoin_heading {table : String}
    (applied : draft.framed (draft.frame.crossJoin dialect.profile table) = .ok next) :
    Heading dialect (.crossJoin table) draft.frame next.frame := by
  obtain ⟨rendered, written, same⟩ := exists_of_bind_ok (framed_ok applied)
  have frame := (Except.ok.inj same).symm
  exact .join table ⟨.cross, rendered, none⟩ next.frame rfl written (by rw [frame])
    (by rw [frame]) (by rw [frame]) rfl

private theorem joinRaw_heading {kind : JoinKind} {table condition : String}
    (applied : draft.framed
      (draft.frame.joinRaw dialect.profile kind table condition) = .ok next) :
    Heading dialect (.joinRaw kind table condition) draft.frame next.frame := by
  obtain ⟨rendered, written, further⟩ := exists_of_bind_ok (framed_ok applied)
  obtain ⟨_, _, same⟩ := exists_of_bind_ok further
  have frame := (Except.ok.inj same).symm
  exact .join table _ next.frame rfl written (by rw [frame]) (by rw [frame]) (by rw [frame]) rfl

private theorem apart_heading {call : Call} {result : Except QueryError Clauses}
    (neither : call.source? = none ∧ call.joined? = none)
    (kept : ∀ frame, result = .ok frame → frame.columns = draft.frame.columns ∧
      frame.source = draft.frame.source ∧ frame.joins = draft.frame.joins)
    (applied : draft.framed result = .ok next) : Heading dialect call draft.frame next.frame := by
  obtain ⟨columns, source, joins⟩ := kept next.frame (framed_ok applied)
  exact .same columns source joins neither

private theorem checked_heading {call : Call} {Item : Type} {source : Except QueryError Item}
    {change : Item → Clauses} (neither : call.source? = none ∧ call.joined? = none)
    (applied : draft.framed (source >>= fun item => pure (change item)) = .ok next)
    (kept : ∀ item, (change item).columns = draft.frame.columns ∧
      (change item).source = draft.frame.source ∧ (change item).joins = draft.frame.joins) :
    Heading dialect call draft.frame next.frame := by
  refine apart_heading neither ?_ applied
  intro frame done
  obtain ⟨item, _, same⟩ := exists_of_bind_ok done
  cases same
  exact kept item

private theorem heading_of_frame {call : Call} (neither : call.source? = none ∧ call.joined? = none)
    (frame : next.frame = draft.frame) : Heading dialect call draft.frame next.frame := by
  rw [frame]
  exact .same rfl rfl rfl neither

theorem apply_heading {call : Call} (applied : draft.apply dialect.profile call = .ok next) :
    Heading dialect call draft.frame next.frame := by
  cases call with
  | readFrom table => exact readFrom_heading (by simpa only [apply] using applied)
  | readFromAs table aliasName => exact readFromAs_heading (by simpa only [apply] using applied)
  | select columns =>
      exact select_heading ⟨rfl, rfl⟩ (fun plain => plain) (by simpa only [apply] using applied)
  | selectColumns text =>
      refine select_heading ⟨rfl, rfl⟩ ?_
        (by simpa only [apply, Clauses.selectColumns] using applied)
      intro plain name member
      obtain ⟨trimmed, kept, rfl⟩ := List.mem_map.mp member
      obtain ⟨listed, some⟩ := List.mem_filter.mp kept
      obtain ⟨stretch, there, rfl⟩ := List.mem_map.mp listed
      exact plain stretch there (by simpa using some)
  | selectAliased pairs => exact selectAliased_heading (by simpa only [apply] using applied)
  | addSelect columns => exact addSelect_heading (by simpa only [apply] using applied)
  | distinct =>
      simp only [apply] at applied
      refine apart_heading ⟨rfl, rfl⟩ ?_ applied
      intro frame done
      cases done
      exact ⟨rfl, rfl, rfl⟩
  | join kind table first operator second =>
      exact join_heading (by simpa only [apply] using applied)
  | crossJoin table => exact crossJoin_heading (by simpa only [apply] using applied)
  | joinRaw kind table condition => exact joinRaw_heading (by simpa only [apply] using applied)
  | groupBy columns =>
      simp only [apply] at applied
      exact checked_heading ⟨rfl, rfl⟩ applied fun _ => ⟨rfl, rfl, rfl⟩
  | orderBy column direction =>
      simp only [apply] at applied
      exact checked_heading ⟨rfl, rfl⟩ applied fun _ => ⟨rfl, rfl, rfl⟩
  | orderByRaw expression =>
      simp only [apply] at applied
      refine apart_heading ⟨rfl, rfl⟩ ?_ applied
      intro frame done
      obtain ⟨_, _, same⟩ := exists_of_bind_ok done
      dsimp only at same
      split at same
      · cases same
      · cases same
        exact ⟨rfl, rfl, rfl⟩
  | limit number =>
      simp only [apply] at applied
      exact checked_heading ⟨rfl, rfl⟩ applied fun _ => ⟨rfl, rfl, rfl⟩
  | offset number =>
      simp only [apply] at applied
      exact checked_heading ⟨rfl, rfl⟩ applied fun _ => ⟨rfl, rfl, rfl⟩
  | delete =>
      simp only [apply] at applied
      exact checked_heading ⟨rfl, rfl⟩ applied fun _ => ⟨rfl, rfl, rfl⟩
  | having column operator value =>
      simp only [apply] at applied
      exact heading_of_frame ⟨rfl, rfl⟩ (having_frame applied)
  | havingRaw sql values =>
      simp only [apply] at applied
      exact heading_of_frame ⟨rfl, rfl⟩ (having_frame applied)
  | group combinator calls =>
      simp only [apply] at applied
      exact heading_of_frame ⟨rfl, rfl⟩ (group_frame applied)
  | insert records =>
      simp only [apply] at applied
      obtain ⟨insertion, same, _⟩ := insertMany_ok applied
      exact heading_of_frame ⟨rfl, rfl⟩ (by rw [same])
  | update changes =>
      simp only [apply] at applied
      obtain ⟨assignment, same, _⟩ := updateWith_ok applied
      exact heading_of_frame ⟨rfl, rfl⟩ (by rw [same])
  | raw sql values =>
      cases applied
      exact heading_of_frame ⟨rfl, rfl⟩ rfl
  | cache options =>
      simp only [apply] at applied
      rw [cache_same applied]
      exact heading_of_frame ⟨rfl, rfl⟩ rfl
  | noCache =>
      cases applied
      exact heading_of_frame ⟨rfl, rfl⟩ rfl
  | encrypt fields =>
      cases applied
      exact heading_of_frame ⟨rfl, rfl⟩ rfl
  | _ =>
      simp only [apply] at applied
      exact heading_of_frame ⟨rfl, rfl⟩ (filtered_frame applied)

end Draft

/-! ### Runs -/

def Clauses.Names (dialect : Dialect) (frame : Clauses) (table : String) : Prop :=
  (∃ source, frame.source = some source ∧ dialect.profile.table table = .ok source.rendered) ∨
    ∃ join ∈ frame.joins, dialect.profile.table table = .ok join.table

theorem Heading.columns_quoted {dialect : Dialect} {call : Call} {before after : Clauses}
    (heading : Heading dialect call before after) (plain : call.Plain)
    (quoted : ∀ column ∈ before.columns, EndsQuoted column.toList) :
    ∀ column ∈ after.columns, EndsQuoted column.toList := by
  cases heading with
  | source _ _ _ _ _ _ _ columns _ _ =>
      rw [columns]
      exact quoted
  | join _ _ _ _ _ _ columns _ _ =>
      rw [columns]
      exact quoted
  | columns _ kept _ _ _ => exact kept plain quoted

theorem Heading.source_kept {dialect : Dialect} {call : Call} {before after : Clauses}
    (heading : Heading dialect call before after) (none : call.source? = none) :
    after.source = before.source := by
  cases heading with
  | source _ _ _ _ named _ _ _ _ _ =>
      rw [none] at named
      cases named
  | join _ _ _ _ _ _ _ source _ => exact source
  | columns _ _ source _ _ => exact source

theorem Heading.source_set {dialect : Dialect} {call : Call} {before after : Clauses}
    {table : String} (heading : Heading dialect call before after)
    (named : call.source? = some table) :
    ∃ source, after.source = some source ∧ source.name = Text.trim table ∧
      dialect.profile.table table = .ok source.rendered := by
  cases heading with
  | source other rendered aliasName _ same written own _ _ _ =>
      rw [named] at same
      cases same
      exact ⟨_, own, rfl, written⟩
  | join _ _ _ _ _ _ _ _ none =>
      rw [named] at none
      cases none
  | columns _ _ _ _ neither =>
      rw [named] at neither
      cases neither.1

theorem Heading.joins_grow {dialect : Dialect} {call : Call} {before after : Clauses}
    (heading : Heading dialect call before after) : before.joins <+: after.joins := by
  cases heading with
  | source _ _ _ _ _ _ _ _ joins _ => rw [joins]
  | join _ _ _ _ _ joins _ _ _ =>
      rw [joins]
      exact List.prefix_append _ _
  | columns _ _ _ joins _ => rw [joins]

theorem Heading.join_added {dialect : Dialect} {call : Call} {before after : Clauses}
    {table : String} (heading : Heading dialect call before after)
    (named : call.joined? = some table) :
    ∃ join ∈ after.joins, dialect.profile.table table = .ok join.table := by
  cases heading with
  | source _ _ _ _ _ _ _ _ _ none =>
      rw [named] at none
      cases none
  | join other join _ same written joins _ _ _ =>
      rw [named] at same
      cases same
      refine ⟨join, ?_, written⟩
      rw [joins]
      exact List.mem_append_right _ List.mem_cons_self
  | columns _ _ _ _ neither =>
      rw [named] at neither
      cases neither.2

/-- The last call for a source names the table. -/
def ReadsFrom (calls : List Call) (table : String) : Prop :=
  ∃ early call late, calls = early ++ call :: late ∧ call.source? = some table ∧
    ∀ later ∈ late, later.source? = none

/-- The table stands behind `FROM` or `JOIN`. -/
def Mentions (calls : List Call) (table : String) : Prop :=
  ReadsFrom calls table ∨ ∃ call ∈ calls, call.joined? = some table

namespace Draft

variable {dialect : Dialect} {calls : List Call}

theorem applyAll_append_ok {profile : Profile} {draft next : Draft} (late early : List Call)
    (applied : draft.applyAll profile (early ++ late) = .ok next) :
    ∃ middle, draft.applyAll profile early = .ok middle ∧
      middle.applyAll profile late = .ok next := by
  rw [applyAll_append] at applied
  exact exists_of_bind_ok applied

theorem applyAll_columns (plain : ∀ call ∈ calls, call.Plain) :
    ∀ {draft next : Draft}, (∀ column ∈ draft.frame.columns, EndsQuoted column.toList) →
      draft.applyAll dialect.profile calls = .ok next →
        ∀ column ∈ next.frame.columns, EndsQuoted column.toList := by
  induction calls with
  | nil =>
      intro draft next quoted applied
      cases applied
      exact quoted
  | cons call rest ih =>
      intro draft next quoted applied
      obtain ⟨middle, own, further⟩ := applyAll_cons_ok applied
      have first := (apply_heading own).columns_quoted (plain call List.mem_cons_self) quoted
      exact ih (fun other member => plain other (List.mem_cons_of_mem _ member)) first further

theorem applyAll_source (late : ∀ call ∈ calls, call.source? = none) {draft next : Draft}
    (applied : draft.applyAll dialect.profile calls = .ok next) :
    next.frame.source = draft.frame.source :=
  applyAll_keeps (fun draft => draft.frame.source)
    (fun call member _ _ own => (apply_heading own).source_kept (late call member)) applied

theorem applyAll_joins : ∀ {draft next : Draft},
    draft.applyAll dialect.profile calls = .ok next → draft.frame.joins <+: next.frame.joins := by
  induction calls with
  | nil =>
      intro draft next applied
      cases applied
      exact List.prefix_rfl
  | cons call rest ih =>
      intro draft next applied
      obtain ⟨middle, own, further⟩ := applyAll_cons_ok applied
      exact (apply_heading own).joins_grow.trans (ih further)

variable {draft next : Draft} {table : String}

theorem applyAll_readsFrom (names : ReadsFrom calls table)
    (applied : draft.applyAll dialect.profile calls = .ok next) :
    ∃ source, next.frame.source = some source ∧ source.name = Text.trim table ∧
      dialect.profile.table table = .ok source.rendered := by
  obtain ⟨early, call, late, rfl, named, last⟩ := names
  obtain ⟨before, _, further⟩ := applyAll_append_ok (call :: late) early applied
  obtain ⟨middle, own, rest⟩ := applyAll_cons_ok further
  rw [applyAll_source last rest]
  exact (apply_heading own).source_set named

theorem applyAll_names (names : Mentions calls table)
    (applied : draft.applyAll dialect.profile calls = .ok next) :
    next.frame.Names dialect table := by
  rcases names with read | ⟨call, member, named⟩
  · obtain ⟨source, found, _, written⟩ := applyAll_readsFrom read applied
    exact .inl ⟨source, found, written⟩
  · obtain ⟨early, late, rfl⟩ := List.append_of_mem member
    obtain ⟨before, _, further⟩ := applyAll_append_ok (call :: late) early applied
    obtain ⟨middle, own, rest⟩ := applyAll_cons_ok further
    obtain ⟨join, there, written⟩ := (apply_heading own).join_added named
    exact .inr ⟨join, (applyAll_joins rest).mem there, written⟩

end Draft

end BoundQuery
