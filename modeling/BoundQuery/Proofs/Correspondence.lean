import BoundQuery.Proofs.Draft
import Mathlib.Data.List.Forall2

/-!
The same calls made with two profiles. Where what the profiles write for single names, raw texts and
conditions corresponds, each call is refused for both or leads both to drafts that correspond. A
property of all that one profile writes is a correspondence of the profile with itself.
-/

set_option autoImplicit false

namespace BoundQuery

/-! ### Outcomes -/

/-- The same refusal, or results that are related. -/
inductive Agree {Left Right : Type} (related : Left → Right → Prop) :
    Except QueryError Left → Except QueryError Right → Prop where
  | refused (error : QueryError) : Agree related (.error error) (.error error)
  | accepted {left : Left} {right : Right} (own : related left right) :
      Agree related (.ok left) (.ok right)

namespace Agree

variable {Left Right Source Target Item : Type} {related : Left → Right → Prop}
variable {further : Source → Target → Prop}

theorem of_ok {result : Except QueryError Left} {related : Left → Left → Prop}
    (own : ∀ item, result = .ok item → related item item) : Agree related result result := by
  cases result with
  | error error => exact .refused error
  | ok item => exact .accepted (own item rfl)

theorem ok_ok {left : Left} {right : Right} (agree : Agree related (.ok left) (.ok right)) :
    related left right := by
  cases agree with
  | accepted own => exact own

theorem outcomes {left : Except QueryError Left} {right : Except QueryError Right}
    (agree : Agree related left right) :
    (∃ error, left = .error error ∧ right = .error error) ∨
      ∃ own other, left = .ok own ∧ right = .ok other ∧ related own other := by
  cases agree with
  | refused error => exact .inl ⟨error, rfl, rfl⟩
  | accepted own => exact .inr ⟨_, _, rfl, rfl, own⟩

theorem bind {left : Except QueryError Left} {right : Except QueryError Right}
    {first : Left → Except QueryError Source} {second : Right → Except QueryError Target}
    (agree : Agree related left right)
    (each : ∀ {own other}, related own other → Agree further (first own) (second other)) :
    Agree further (left >>= first) (right >>= second) := by
  cases agree with
  | refused error => exact .refused error
  | accepted own => exact each own

theorem map {left : Except QueryError Left} {right : Except QueryError Right}
    {first : Left → Source} {second : Right → Target} (agree : Agree related left right)
    (each : ∀ {own other}, related own other → further (first own) (second other)) :
    Agree further (left.map first) (right.map second) := by
  cases agree with
  | refused error => exact .refused error
  | accepted own => exact .accepted (each own)

theorem after (source : Except QueryError Item) {first : Item → Except QueryError Source}
    {second : Item → Except QueryError Target}
    (each : ∀ item, source = .ok item → Agree further (first item) (second item)) :
    Agree further (source >>= first) (source >>= second) := by
  cases source with
  | error error => exact .refused error
  | ok item => exact each item rfl

theorem mapM {first : Item → Except QueryError Left} {second : Item → Except QueryError Right}
    {items : List Item} (each : ∀ item ∈ items, Agree related (first item) (second item)) :
    Agree (List.Forall₂ related) (items.mapM first) (items.mapM second) := by
  induction items with
  | nil => exact .accepted .nil
  | cons item rest ih =>
      obtain ⟨own, others⟩ := List.forall_mem_cons.mp each
      rw [List.mapM_cons, List.mapM_cons]
      exact own.bind fun head => (ih others).bind fun tail => .accepted (.cons head tail)

end Agree

theorem forall_of_related {Left Right : Type} {related : Left → Right → Prop} {test : Left → Prop}
    {firsts : List Left} {seconds : List Right} (same : List.Forall₂ related firsts seconds)
    (each : ∀ {own other}, related own other → test own) : ∀ own ∈ firsts, test own := by
  induction same with
  | nil => exact fun _ member => by cases member
  | cons head _ ih => exact List.forall_mem_cons.mpr ⟨each head, ih⟩

theorem exists_of_related {Left Right : Type} {related : Left → Right → Prop} {own : Left}
    {first : Option Left} {second : Option Right} (same : Option.Rel related first second)
    (found : first = some own) : ∃ other, second = some other ∧ related own other := by
  cases same with
  | none => cases found
  | some both =>
      cases found
      exact ⟨_, rfl, both⟩

theorem rel_self {Item : Type} {related : Item → Item → Prop} {held : Option Item}
    (each : ∀ item, held = some item → related item item) : Option.Rel related held held := by
  cases held with
  | none => exact .none
  | some item => exact .some (each item rfl)

theorem isSome_of_related {Left Right : Type} {related : Left → Right → Prop} {first : Option Left}
    {second : Option Right} (same : Option.Rel related first second) :
    first.isSome = second.isSome := by
  cases same with
  | _ => rfl

theorem forall_mem_pair {Item : Type} {test : Item → Prop} {first second : Item} :
    (∀ item ∈ [first, second], test item) ↔ test first ∧ test second := by
  rw [List.forall_mem_cons, List.forall_mem_singleton]

theorem isEmpty_of_related {Left Right : Type} {related : Left → Right → Prop}
    {firsts : List Left} {seconds : List Right} (same : List.Forall₂ related firsts seconds) :
    firsts.isEmpty = seconds.isEmpty := by
  cases same with
  | _ => rfl

inductive RawPlace where
  | statement
  | condition
  | join
  | order
deriving DecidableEq

namespace Call

mutual

def names : Call → List String
  | readFrom table => [table]
  | readFromAs table aliasName => [table, aliasName]
  | select columns => columns
  | selectColumns text =>
      (((text.toList.splitOn ',').map Text.trimChars).filter
        (fun stretch => !stretch.isEmpty)).map String.ofList
  | selectAliased pairs => pairs.flatMap (fun pair => [pair.1, pair.2])
  | addSelect columns => columns
  | join _ table first _ second => [table, first, second]
  | crossJoin table => [table]
  | joinRaw _ table _ => [table]
  | groupBy columns => columns
  | having column _ _ => [column]
  | orderBy column _ => [column]
  | compare _ column _ _ => [column]
  | membership _ _ column _ => [column]
  | between _ _ column _ _ => [column]
  | nullTest _ _ column => [column]
  | group _ calls => allNames calls
  | whereDate column _ _ => [column]
  | whereYear column _ _ => [column]
  | whereMonth column _ _ => [column]
  | whereDay column _ _ => [column]
  | whereToday column => [column]
  | whereYesterday column => [column]
  | whereLastDays column _ => [column]
  | whereBetweenDates column _ _ => [column]
  | insert records => records.flatMap Record.columns
  | update changes => changes.columns
  | _ => []

def allNames : List Call → List String
  | [] => []
  | call :: rest => names call ++ allNames rest

end

mutual

def raws : Call → List (RawPlace × String)
  | joinRaw _ _ condition => [(.join, condition)]
  | havingRaw sql _ => [(.condition, sql)]
  | orderByRaw expression => [(.order, expression)]
  | whereRaw _ sql _ => [(.condition, sql)]
  | group _ calls => allRaws calls
  | raw sql _ => [(.statement, sql)]
  | _ => []

def allRaws : List Call → List (RawPlace × String)
  | [] => []
  | call :: rest => raws call ++ allRaws rest

end

theorem mem_allNames {name : String} {calls : List Call} :
    name ∈ allNames calls ↔ ∃ call ∈ calls, name ∈ call.names := by
  induction calls with
  | nil => simp [allNames]
  | cons call rest ih => simp [allNames, ih]

theorem mem_allRaws {raw : RawPlace × String} {calls : List Call} :
    raw ∈ allRaws calls ↔ ∃ call ∈ calls, raw ∈ call.raws := by
  induction calls with
  | nil => simp [allRaws]
  | cons call rest ih => simp [allRaws, ih]

end Call

/-! ### Drafts -/

section Related

variable (text : String → String → Prop) (pieces : List Piece → List Piece → Prop)

structure Source.Related (left right : Source) : Prop where
  name : left.name = right.name
  rendered : text left.rendered right.rendered
  aliasName : Option.Rel text left.aliasName right.aliasName

structure Join.Related (left right : Join) : Prop where
  kind : left.kind = right.kind
  table : text left.table right.table
  condition : Option.Rel text left.condition right.condition

structure Order.Related (left right : Order) : Prop where
  column : text left.column right.column
  direction : left.direction = right.direction
  raw : left.raw = right.raw

structure Clauses.Related (left right : Clauses) : Prop where
  columns : List.Forall₂ text left.columns right.columns
  distinct : left.distinct = right.distinct
  source : Option.Rel (Source.Related text) left.source right.source
  joins : List.Forall₂ (Join.Related text) left.joins right.joins
  groups : List.Forall₂ text left.groups right.groups
  orders : List.Forall₂ (Order.Related text) left.orders right.orders
  limit : left.limit = right.limit
  offset : left.offset = right.offset
  delete : Option.Rel (fun own other => text own.table other.table) left.delete right.delete

structure Condition.Related (left right : Condition) : Prop where
  combinator : left.combinator = right.combinator
  pieces : pieces left.pieces right.pieces

structure Insertion.Related (left right : Insertion) : Prop where
  table : text left.table right.table
  columns : List.Forall₂ text left.columns right.columns
  rows : left.rows = right.rows

structure Assignment.Related (left right : Assignment) : Prop where
  table : text left.table right.table
  cells : List.Forall₂ (fun own other => text own.1 other.1 ∧ own.2 = other.2)
    left.cells right.cells

structure Draft.Related (left right : Draft) : Prop where
  frame : left.frame.Related text right.frame
  wheres : List.Forall₂ (Condition.Related pieces) left.wheres right.wheres
  havings : List.Forall₂ (Condition.Related pieces) left.havings right.havings
  insertion : Option.Rel (Insertion.Related text) left.insertion right.insertion
  assignment : Option.Rel (Assignment.Related text) left.assignment right.assignment
  raw : left.raw = right.raw

end Related

/-- What two profiles write for the same names and raw texts corresponds, one by one. -/
structure Profile.Corresponds (left right : Profile) (given : String → Prop)
    (allowed : RawPlace → String → Prop) (text : String → String → Prop)
    (pieces : List Piece → List Piece → Prop) : Prop where
  table : ∀ {name}, given name → Agree text (left.table name) (right.table name)
  column : ∀ {name}, given name → Agree text (left.column name) (right.column name)
  aliasName : ∀ {name}, given name → Agree text (left.aliasName name) (right.aliasName name)
  compared : ∀ {first other second further} (operator : Operator), text first other →
    text second further → text (first ++ " " ++ operator.text ++ " " ++ second)
      (other ++ " " ++ operator.text ++ " " ++ further)
  named : ∀ {first other second further}, text first other → text second further →
    text (first ++ " AS " ++ second) (other ++ " AS " ++ further)
  joined : ∀ {sql}, allowed .join sql → checkRaw "join condition" sql = .ok () →
    text (Text.trim sql) (Text.trim sql)
  ordered : ∀ {sql}, allowed .order sql → checkRaw "order expression" sql = .ok () →
    text (Text.trim sql) (Text.trim sql)
  comparison : ∀ {column} (operator : String) (value : Value), given column →
    Agree pieces (Piece.comparison left column operator value)
      (Piece.comparison right column operator value)
  membership : ∀ {column} (negated : Bool) (values : List Value), given column →
    Agree pieces (Piece.membership left negated column values)
      (Piece.membership right negated column values)
  between : ∀ {column} (negated : Bool) (low high : Value), given column →
    Agree pieces (Piece.between left negated column low high)
      (Piece.between right negated column low high)
  nullTest : ∀ {column} (negated : Bool), given column →
    Agree pieces (Piece.nullTest left negated column) (Piece.nullTest right negated column)
  datePart : ∀ {column} (part : DatePart) (operator : String) (value : Value), given column →
    Agree pieces (Piece.datePart left part column operator value)
      (Piece.datePart right part column operator value)
  today : ∀ {column}, given column →
    Agree pieces (Piece.relativeDate left column " = " left.currentDate)
      (Piece.relativeDate right column " = " right.currentDate)
  daysAgo : ∀ {column comparison} (days : Nat), comparison = " = " ∨ comparison = " >= " →
    given column →
    Agree pieces (Piece.relativeDate left column comparison (left.dateMinusDays days))
      (Piece.relativeDate right column comparison (right.dateMinusDays days))
  dateRange : ∀ {column} (start stop : DateInput), given column →
    Agree pieces (Piece.dateRange left column start stop) (Piece.dateRange right column start stop)
  having : ∀ {column} (operator : String) (value : Value), given column →
    Agree pieces (Piece.having left column operator value)
      (Piece.having right column operator value)
  rawCondition : ∀ {sql filled} (kind : String) (values : List Value), allowed .condition sql →
    Piece.rawCondition kind sql values = .ok filled → pieces filled filled
  enclosed : ∀ {first second}, pieces first second →
    pieces (Piece.enclosed first) (Piece.enclosed second)
  chain : ∀ {first second}, List.Forall₂ (Condition.Related pieces) first second →
    pieces (Piece.chain first) (Piece.chain second)

variable {left right : Profile} {given : String → Prop} {allowed : RawPlace → String → Prop}
variable {text : String → String → Prop} {pieces : List Piece → List Piece → Prop}

namespace Clauses

variable {own other : Clauses}

theorem related_nothing : ({} : Clauses).Related text {} :=
  ⟨.nil, rfl, .none, .nil, .nil, .nil, rfl, rfl, .none⟩

theorem columns_agree (written : left.Corresponds right given allowed text pieces)
    {names : List String} (named : ∀ name ∈ names, given name) :
    Agree (List.Forall₂ text) (left.columns names) (right.columns names) :=
  Agree.mapM fun name member => written.column (named name member)

theorem Related.readFrom (related : own.Related text other)
    (written : left.Corresponds right given allowed text pieces) {table : String}
    (named : given table) :
    Agree (Clauses.Related text) (own.readFrom left table) (other.readFrom right table) :=
  (written.table named).bind fun rendered =>
    .accepted { related with source := .some ⟨rfl, rendered, .none⟩ }

theorem Related.readFromAs (related : own.Related text other)
    (written : left.Corresponds right given allowed text pieces) {table aliasName : String}
    (named : given table) (renamed : given aliasName) :
    Agree (Clauses.Related text) (own.readFromAs left table aliasName)
      (other.readFromAs right table aliasName) :=
  (written.table named).bind fun rendered => (written.aliasName renamed).bind fun known =>
    .accepted { related with source := .some ⟨rfl, rendered, .some known⟩ }

theorem Related.select (related : own.Related text other)
    (written : left.Corresponds right given allowed text pieces) {names : List String}
    (named : ∀ name ∈ names, given name) :
    Agree (Clauses.Related text) (own.select left names) (other.select right names) :=
  (columns_agree written named).bind fun columns => .accepted { related with columns := columns }

theorem Related.addSelect (related : own.Related text other)
    (written : left.Corresponds right given allowed text pieces) {names : List String}
    (named : ∀ name ∈ names, given name) :
    Agree (Clauses.Related text) (own.addSelect left names) (other.addSelect right names) :=
  (columns_agree written named).bind fun columns =>
    .accepted { related with columns := List.rel_append related.columns columns }

theorem Related.selectAliased (related : own.Related text other)
    (written : left.Corresponds right given allowed text pieces) {pairs : List (String × String)}
    (named : ∀ pair ∈ pairs, given pair.1 ∧ given pair.2) :
    Agree (Clauses.Related text) (own.selectAliased left pairs)
      (other.selectAliased right pairs) := by
  have each : Agree (List.Forall₂ text)
      (pairs.mapM fun pair => aliased left pair.1 pair.2)
      (pairs.mapM fun pair => aliased right pair.1 pair.2) := by
    refine Agree.mapM fun pair member => ?_
    obtain ⟨renamed, column⟩ := named pair member
    exact (written.column column).bind fun rendered => (written.aliasName renamed).bind
      fun known => .accepted (written.named rendered known)
  exact each.bind fun columns => .accepted { related with columns := columns }

theorem Related.join (related : own.Related text other)
    (written : left.Corresponds right given allowed text pieces) (kind : JoinKind)
    {table first second : String} (operator : String) (named : given table)
    (before : given first) (behind : given second) :
    Agree (Clauses.Related text) (own.join left kind table first operator second)
      (other.join right kind table first operator second) := by
  refine (written.table named).bind fun rendered => Agree.after _ fun comparison _ => ?_
  refine (written.column before).bind fun compared => (written.column behind).bind fun against => ?_
  have condition := written.compared comparison compared against
  exact .accepted { related with
    joins := List.rel_append related.joins (.cons ⟨rfl, rendered, .some condition⟩ .nil) }

theorem Related.crossJoin (related : own.Related text other)
    (written : left.Corresponds right given allowed text pieces) {table : String}
    (named : given table) :
    Agree (Clauses.Related text) (own.crossJoin left table) (other.crossJoin right table) :=
  (written.table named).bind fun rendered => .accepted { related with
    joins := List.rel_append related.joins (.cons ⟨rfl, rendered, .none⟩ .nil) }

theorem Related.joinRaw (related : own.Related text other)
    (written : left.Corresponds right given allowed text pieces) (kind : JoinKind)
    {table condition : String} (named : given table) (raw : allowed .join condition) :
    Agree (Clauses.Related text) (own.joinRaw left kind table condition)
      (other.joinRaw right kind table condition) := by
  refine (written.table named).bind fun rendered => Agree.after _ fun _ checked => ?_
  have optional : Option.Rel text (if kind = .cross then none else some (Text.trim condition))
      (if kind = .cross then none else some (Text.trim condition)) := by
    split
    · exact .none
    · exact .some (written.joined raw checked)
  exact .accepted { related with
    joins := List.rel_append related.joins (.cons ⟨rfl, rendered, optional⟩ .nil) }

theorem Related.groupBy (related : own.Related text other)
    (written : left.Corresponds right given allowed text pieces) {names : List String}
    (named : ∀ name ∈ names, given name) :
    Agree (Clauses.Related text) (own.groupBy left names) (other.groupBy right names) :=
  (columns_agree written named).bind fun columns =>
    .accepted { related with groups := List.rel_append related.groups columns }

theorem Related.orderBy (related : own.Related text other)
    (written : left.Corresponds right given allowed text pieces) {column : String}
    (direction : Direction) (named : given column) :
    Agree (Clauses.Related text) (own.orderBy left column direction)
      (other.orderBy right column direction) :=
  (written.column named).bind fun rendered => .accepted { related with
    orders := List.rel_append related.orders (.cons ⟨rendered, rfl, rfl⟩ .nil) }

theorem Related.orderByRaw (related : own.Related text other)
    (written : left.Corresponds right given allowed text pieces) {expression : String}
    (raw : allowed .order expression) :
    Agree (Clauses.Related text) (own.orderByRaw expression) (other.orderByRaw expression) := by
  refine Agree.after _ fun _ checked => ?_
  have entry : Order.Related text ⟨Text.trim expression, .ascending, true⟩
      ⟨Text.trim expression, .ascending, true⟩ :=
    ⟨written.ordered raw checked, rfl, rfl⟩
  dsimp only
  split
  · exact .refused _
  · exact .accepted { related with orders := List.rel_append related.orders (.cons entry .nil) }

theorem Related.target (related : own.Related text other) (operation : String) :
    Agree text (own.target operation) (other.target operation) := by
  have sources := related.source
  unfold Clauses.target
  generalize own.source = mine at sources ⊢
  generalize other.source = yours at sources ⊢
  cases sources with
  | none => exact .refused _
  | some same => exact .accepted same.rendered

theorem Related.deleteRows (related : own.Related text other) :
    Agree (Clauses.Related text) own.deleteRows other.deleteRows :=
  (related.target "delete").bind fun table => .accepted { related with delete := .some table }

theorem Related.withLimit (related : own.Related text other) (limit : Int) :
    Agree (Clauses.Related text) (own.withLimit limit) (other.withLimit limit) :=
  Agree.after _ fun _ _ => .accepted { related with limit := rfl }

theorem Related.withOffset (related : own.Related text other) (offset : Int) :
    Agree (Clauses.Related text) (own.withOffset offset) (other.withOffset offset) :=
  Agree.after _ fun _ _ => .accepted { related with offset := rfl }

end Clauses

namespace Draft

variable {own other : Draft}

theorem related_nothing : ({} : Draft).Related text pieces {} :=
  ⟨Clauses.related_nothing, .nil, .nil, .none, .none, rfl⟩

theorem Related.framed (related : own.Related text pieces other)
    {first second : Except QueryError Clauses} (agree : Agree (Clauses.Related text) first second) :
    Agree (Draft.Related text pieces) (own.framed first) (other.framed second) :=
  agree.map fun frame => { related with frame := frame }

theorem Related.addWhere (related : own.Related text pieces other) (combinator : Combinator)
    {first second : List Piece} (same : pieces first second) :
    (own.addWhere combinator first).Related text pieces (other.addWhere combinator second) :=
  { related with wheres := List.rel_append related.wheres (.cons ⟨rfl, same⟩ .nil) }

theorem Related.filtered (related : own.Related text pieces other) {combinator : Combinator}
    {first second : Except QueryError (List Piece)} (agree : Agree pieces first second) :
    Agree (Draft.Related text pieces) (own.filtered combinator first)
      (other.filtered combinator second) :=
  agree.map fun same => related.addWhere combinator same

theorem Related.addHaving (related : own.Related text pieces other)
    {first second : Except QueryError (List Piece)} (agree : Agree pieces first second) :
    Agree (Draft.Related text pieces) (first.map own.addHaving) (second.map other.addHaving) :=
  agree.map fun same => { related with
    havings := List.rel_append related.havings (.cons ⟨rfl, same⟩ .nil) }

theorem Related.addGroup (related : own.Related text pieces other)
    (written : left.Corresponds right given allowed text pieces) (combinator : Combinator)
    {first second : Draft} (inner : first.Related text pieces second) :
    (own.addGroup combinator first).Related text pieces (other.addGroup combinator second) := by
  unfold Draft.addGroup
  rw [isEmpty_of_related inner.wheres]
  split
  · exact related
  · exact related.addWhere combinator (written.enclosed (written.chain inner.wheres))

theorem Related.insertMany (related : own.Related text pieces other)
    (written : left.Corresponds right given allowed text pieces) {records : List Record}
    (named : ∀ name ∈ records.flatMap Record.columns, given name) :
    Agree (Draft.Related text pieces) (own.insertMany left records)
      (other.insertMany right records) := by
  refine (related.frame.target "insert").bind fun table => ?_
  cases records with
  | nil => exact .refused _
  | cons first rest =>
      dsimp only
      split
      · exact .refused _
      · have own : ∀ name ∈ first.columns, given name :=
          fun name member => named name (List.mem_append_left _ member)
        refine (Clauses.columns_agree written own).bind fun columns => ?_
        refine Agree.after _ fun rows _ => ?_
        exact .accepted { related with insertion := .some ⟨table, columns, rfl⟩ }

theorem cells_related {first second : List String} (columns : List.Forall₂ text first second) :
    ∀ values : List Value, List.Forall₂ (fun own other => text own.1 other.1 ∧ own.2 = other.2)
      (first.zip values) (second.zip values) := by
  induction columns with
  | nil =>
      intro values
      exact .nil
  | cons same _ ih =>
      intro values
      cases values with
      | nil => exact .nil
      | cons value others => exact .cons ⟨same, rfl⟩ (ih others)

theorem Related.updateWith (related : own.Related text pieces other)
    (written : left.Corresponds right given allowed text pieces) {changes : Record}
    (named : ∀ name ∈ changes.columns, given name) :
    Agree (Draft.Related text pieces) (own.updateWith left changes)
      (other.updateWith right changes) := by
  refine (related.frame.target "update").bind fun table => ?_
  split
  · exact .refused _
  · refine (Clauses.columns_agree written named).bind fun columns => ?_
    have cells := cells_related columns (changes.map Prod.snd)
    exact .accepted { related with assignment := .some ⟨table, cells⟩ }

mutual

/-- Each call is refused for both drafts, or both go on to related ones. -/
theorem apply_related (written : left.Corresponds right given allowed text pieces) (call : Call)
    {own other : Draft} (related : own.Related text pieces other)
    (named : ∀ name ∈ call.names, given name) (raw : ∀ raw ∈ call.raws, allowed raw.1 raw.2) :
    Agree (Draft.Related text pieces) (own.apply left call) (other.apply right call) := by
  unfold Call.names at named
  unfold Call.raws at raw
  cases call with
  | readFrom table =>
      simp only [apply]
      exact related.framed (related.frame.readFrom written (named _ List.mem_cons_self))
  | readFromAs table aliasName =>
      obtain ⟨table, renamed⟩ := forall_mem_pair.mp named
      simp only [apply]
      exact related.framed (related.frame.readFromAs written table renamed)
  | select columns =>
      simp only [apply]
      exact related.framed (related.frame.select written named)
  | selectColumns text =>
      simp only [apply]
      exact related.framed (related.frame.select written named)
  | selectAliased pairs =>
      simp only [apply]
      refine related.framed (related.frame.selectAliased written fun pair member => ?_)
      exact forall_mem_pair.mp fun name inside =>
        named name (List.mem_flatMap.mpr ⟨pair, member, inside⟩)
  | addSelect columns =>
      simp only [apply]
      exact related.framed (related.frame.addSelect written named)
  | distinct =>
      simp only [apply]
      exact related.framed (.accepted { related.frame with distinct := rfl })
  | join kind table first operator second =>
      obtain ⟨table, compared⟩ := List.forall_mem_cons.mp named
      obtain ⟨first, second⟩ := forall_mem_pair.mp compared
      simp only [apply]
      exact related.framed (related.frame.join written kind operator table first second)
  | crossJoin table =>
      simp only [apply]
      exact related.framed (related.frame.crossJoin written (named _ List.mem_cons_self))
  | joinRaw kind table condition =>
      simp only [apply]
      exact related.framed (related.frame.joinRaw written kind (named _ List.mem_cons_self)
        (raw _ List.mem_cons_self))
  | groupBy columns =>
      simp only [apply]
      exact related.framed (related.frame.groupBy written named)
  | having column operator value =>
      simp only [apply]
      exact related.addHaving (written.having operator value (named _ List.mem_cons_self))
  | havingRaw sql values =>
      simp only [apply]
      exact related.addHaving (Agree.of_ok fun filled made =>
        written.rawCondition "having" values (raw _ List.mem_cons_self) made)
  | orderBy column direction =>
      simp only [apply]
      exact related.framed (related.frame.orderBy written direction (named _ List.mem_cons_self))
  | orderByRaw expression =>
      simp only [apply]
      exact related.framed (related.frame.orderByRaw written (raw _ List.mem_cons_self))
  | limit number =>
      simp only [apply]
      exact related.framed (related.frame.withLimit number)
  | offset number =>
      simp only [apply]
      exact related.framed (related.frame.withOffset number)
  | compare combinator column operator value =>
      simp only [apply]
      exact related.filtered (written.comparison operator value (named _ List.mem_cons_self))
  | membership combinator negated column values =>
      simp only [apply]
      exact related.filtered (written.membership negated values (named _ List.mem_cons_self))
  | between combinator negated column low high =>
      simp only [apply]
      exact related.filtered (written.between negated low high (named _ List.mem_cons_self))
  | nullTest combinator negated column =>
      simp only [apply]
      exact related.filtered (written.nullTest negated (named _ List.mem_cons_self))
  | whereRaw combinator sql values =>
      simp only [apply]
      have bare : Agree pieces (Piece.rawCondition "where" sql values)
          (Piece.rawCondition "where" sql values) :=
        Agree.of_ok fun filled made =>
          written.rawCondition "where" values (raw _ List.mem_cons_self) made
      exact related.filtered (bare.map written.enclosed)
  | group combinator calls =>
      simp only [apply]
      exact (applyAll_related written calls related_nothing named raw).map
        fun inner => related.addGroup written combinator inner
  | whereDate column operator date =>
      simp only [apply]
      exact related.filtered (Agree.after _ fun day _ =>
        written.datePart .date operator (.string day.text) (named _ List.mem_cons_self))
  | whereYear column operator year =>
      simp only [apply]
      exact related.filtered (written.datePart .year operator _ (named _ List.mem_cons_self))
  | whereMonth column operator month =>
      simp only [apply, Piece.month]
      refine related.filtered ?_
      split
      · exact written.datePart .month operator _ (named _ List.mem_cons_self)
      · exact .refused _
  | whereDay column operator day =>
      simp only [apply, Piece.day]
      refine related.filtered ?_
      split
      · exact written.datePart .day operator _ (named _ List.mem_cons_self)
      · exact .refused _
  | whereToday column =>
      simp only [apply]
      exact related.filtered (written.today (named _ List.mem_cons_self))
  | whereYesterday column =>
      simp only [apply]
      exact related.filtered (written.daysAgo 1 (.inl rfl) (named _ List.mem_cons_self))
  | whereLastDays column days =>
      simp only [apply]
      exact related.filtered (written.daysAgo days (.inr rfl) (named _ List.mem_cons_self))
  | whereBetweenDates column start stop =>
      simp only [apply]
      exact related.filtered (written.dateRange start stop (named _ List.mem_cons_self))
  | insert records =>
      simp only [apply]
      exact related.insertMany written named
  | update changes =>
      simp only [apply]
      exact related.updateWith written named
  | delete =>
      simp only [apply]
      exact related.framed related.frame.deleteRows
  | raw sql values =>
      simp only [apply]
      exact .accepted { related with raw := rfl }
  | cache options =>
      simp only [apply]
      have checked : Agree (fun _ _ => True) options.check options.check :=
        Agree.of_ok fun _ _ => trivial
      exact checked.map fun _ => related
  | noCache =>
      simp only [apply]
      exact .accepted related
  | encrypt fields =>
      simp only [apply]
      exact .accepted related

theorem applyAll_related (written : left.Corresponds right given allowed text pieces)
    (calls : List Call) {own other : Draft} (related : own.Related text pieces other)
    (named : ∀ name ∈ Call.allNames calls, given name)
    (raw : ∀ raw ∈ Call.allRaws calls, allowed raw.1 raw.2) :
    Agree (Draft.Related text pieces) (own.applyAll left calls) (other.applyAll right calls) := by
  unfold Call.allNames at named
  unfold Call.allRaws at raw
  cases calls with
  | nil =>
      unfold applyAll
      exact .accepted related
  | cons call rest =>
      obtain ⟨first, others⟩ := List.forall_mem_append.mp named
      obtain ⟨bare, further⟩ := List.forall_mem_append.mp raw
      have step := apply_related written call related first bare
      unfold applyAll
      generalize own.apply left call = mine at step ⊢
      generalize other.apply right call = yours at step ⊢
      cases step with
      | refused error => exact .refused error
      | accepted next => exact applyAll_related written rest next others further

end

end Draft

end BoundQuery
