import BoundQuery.Proofs.Alignment

/-!
The order of calls. A call concerns one clause: whether it is accepted and what it leaves there
depends on that clause alone, and the other clauses stay as they are. So the calls of one clause can
be told apart from the others, and two programs that make the same calls in each clause come to the
same statement, although they bind their values in different orders.
-/

set_option autoImplicit false

namespace BoundQuery

/-! ### Clauses -/

/-- The source and the writes are one clause, since a write takes the source for its table. The last
one is how the result is read, of which the statement knows nothing. -/
inductive Clause where
  | projection
  | distinct
  | target
  | joins
  | wheres
  | groups
  | havings
  | orders
  | limit
  | offset
  | raw
  | reading
deriving DecidableEq

def Call.clause : Call → Clause
  | .readFrom _ | .readFromAs _ _ => .target
  | .select _ | .selectColumns _ | .selectAliased _ | .addSelect _ => .projection
  | .distinct => .distinct
  | .join _ _ _ _ _ | .crossJoin _ | .joinRaw _ _ _ => .joins
  | .groupBy _ => .groups
  | .having _ _ _ | .havingRaw _ _ => .havings
  | .orderBy _ _ | .orderByRaw _ => .orders
  | .limit _ => .limit
  | .offset _ => .offset
  | .compare _ _ _ _ | .membership _ _ _ _ | .between _ _ _ _ _ | .nullTest _ _ _
  | .whereRaw _ _ _ | .group _ _ | .whereDate _ _ _ | .whereYear _ _ _ | .whereMonth _ _ _
  | .whereDay _ _ _ | .whereToday _ | .whereYesterday _ | .whereLastDays _ _
  | .whereBetweenDates _ _ _ => .wheres
  | .insert _ | .update _ | .delete => .target
  | .raw _ _ => .raw
  | .cache _ | .noCache | .encrypt _ => .reading

/-- The calls of one clause, in their order. -/
def Call.within (clause : Clause) (calls : List Call) : List Call :=
  calls.filter (fun call => call.clause = clause)

theorem Call.within_own {clause : Clause} {call : Call} (rest : List Call)
    (own : call.clause = clause) : within clause (call :: rest) = call :: within clause rest :=
  List.filter_cons_of_pos (by simpa using own)

theorem Call.within_other {clause : Clause} {call : Call} (rest : List Call)
    (other : call.clause ≠ clause) : within clause (call :: rest) = within clause rest :=
  List.filter_cons_of_neg (by simpa using other)

abbrev Clause.Content : Clause → Type
  | projection => List String
  | distinct => Bool
  | target => Option Source × Option Insertion × Option Assignment × Option Delete
  | joins => List Join
  | wheres => List Condition
  | groups => List String
  | havings => List Condition
  | orders => List Order
  | limit => Option Nat
  | offset => Option Nat
  | raw => Option Statement
  | reading => Unit

namespace Draft

def content (draft : Draft) : (clause : Clause) → clause.Content
  | .projection => draft.frame.columns
  | .distinct => draft.frame.distinct
  | .target => (draft.frame.source, draft.insertion, draft.assignment, draft.frame.delete)
  | .joins => draft.frame.joins
  | .wheres => draft.wheres
  | .groups => draft.frame.groups
  | .havings => draft.havings
  | .orders => draft.frame.orders
  | .limit => draft.frame.limit
  | .offset => draft.frame.offset
  | .raw => draft.raw
  | .reading => ()

def put (draft : Draft) : (clause : Clause) → clause.Content → Draft
  | .projection, columns => { draft with frame := { draft.frame with columns := columns } }
  | .distinct, distinct => { draft with frame := { draft.frame with distinct := distinct } }
  | .target, (source, insertion, assignment, delete) =>
      { draft with
        frame := { draft.frame with source := source, delete := delete }
        insertion := insertion
        assignment := assignment }
  | .joins, joins => { draft with frame := { draft.frame with joins := joins } }
  | .wheres, wheres => { draft with wheres := wheres }
  | .groups, groups => { draft with frame := { draft.frame with groups := groups } }
  | .havings, havings => { draft with havings := havings }
  | .orders, orders => { draft with frame := { draft.frame with orders := orders } }
  | .limit, limit => { draft with frame := { draft.frame with limit := limit } }
  | .offset, offset => { draft with frame := { draft.frame with offset := offset } }
  | .raw, raw => { draft with raw := raw }
  | .reading, _ => draft

theorem content_put (draft : Draft) (clause : Clause) (content : clause.Content) :
    (draft.put clause content).content clause = content := by
  cases clause with
  | _ => rfl

theorem content_put_other (draft : Draft) {clause other : Clause} (content : clause.Content)
    (differs : other ≠ clause) :
    (draft.put clause content).content other = draft.content other := by
  cases clause with
  | _ =>
      cases other with
      | _ =>
          first
          | rfl
          | exact absurd rfl differs

/-- Two drafts are treated alike: both are refused for one reason, or both get the same content in
the clause and keep the content of all others. -/
inductive Confined (clause : Clause) (first second : Draft) :
    Except QueryError Draft → Except QueryError Draft → Prop where
  | refused (error : QueryError) : Confined clause first second (.error error) (.error error)
  | done {one two : Draft} (alike : one.content clause = two.content clause)
      (left : ∀ other ≠ clause, one.content other = first.content other)
      (right : ∀ other ≠ clause, two.content other = second.content other) :
      Confined clause first second (.ok one) (.ok two)

variable {clause : Clause} {first second : Draft}

namespace Confined

theorem put (clause : Clause) (change : clause.Content → clause.Content)
    (agree : first.content clause = second.content clause) :
    Confined clause first second (.ok (first.put clause (change (first.content clause))))
      (.ok (second.put clause (change (second.content clause)))) := by
  refine .done ?_ ?_ ?_
  · rw [content_put, content_put, agree]
  · exact fun other differs => content_put_other first _ differs
  · exact fun other differs => content_put_other second _ differs

theorem map {Item : Type} (source : Except QueryError Item) {left right : Item → Draft}
    (each : ∀ item, Confined clause first second (.ok (left item)) (.ok (right item))) :
    Confined clause first second (source.map left) (source.map right) := by
  cases source with
  | error error => exact refused error
  | ok item => exact each item

theorem bind {Item : Type} (source : Except QueryError Item)
    {left right : Item → Except QueryError Draft}
    (each : ∀ item, Confined clause first second (left item) (right item)) :
    Confined clause first second (source >>= left) (source >>= right) := by
  cases source with
  | error error => exact refused error
  | ok item => exact each item

theorem framed {Item : Type} (source : Except QueryError Item)
    {left right : Item → Except QueryError Clauses}
    (each : ∀ item, Confined clause first second (first.framed (left item))
      (second.framed (right item))) :
    Confined clause first second (first.framed (source >>= left))
      (second.framed (source >>= right)) := by
  cases source with
  | error error => exact refused error
  | ok item => exact each item

end Confined

/-! ### Call by call -/

/-- The target of a write is looked up in the source alone. -/
theorem target_eq (agree : first.content .target = second.content .target) (operation : String) :
    first.frame.target operation = second.frame.target operation := by
  have source : first.frame.source = second.frame.source := congrArg Prod.fst agree
  unfold Clauses.target
  rw [source]

theorem filtered_confined (combinator : Combinator) (pieces : Except QueryError (List Piece))
    (agree : first.content .wheres = second.content .wheres) :
    Confined .wheres first second (first.filtered combinator pieces)
      (second.filtered combinator pieces) :=
  .map pieces fun condition => .put .wheres (· ++ [Condition.mk combinator condition]) agree

theorem having_confined (pieces : Except QueryError (List Piece))
    (agree : first.content .havings = second.content .havings) :
    Confined .havings first second (pieces.map first.addHaving) (pieces.map second.addHaving) :=
  .map pieces fun condition => .put .havings (· ++ [Condition.mk .and condition]) agree

theorem group_confined (combinator : Combinator) (inner : Except QueryError Draft)
    (agree : first.content .wheres = second.content .wheres) :
    Confined .wheres first second (inner.map (first.addGroup combinator))
      (inner.map (second.addGroup combinator)) := by
  refine .map inner fun draft => ?_
  unfold addGroup
  by_cases empty : draft.wheres.isEmpty = true
  · rw [if_pos empty, if_pos empty]
    exact .put .wheres id agree
  · rw [if_neg empty, if_neg empty]
    exact .put .wheres (· ++ [⟨combinator, Piece.enclosed (Piece.chain draft.wheres)⟩]) agree

theorem insertMany_confined (profile : Profile) (records : List Record)
    (agree : first.content .target = second.content .target) :
    Confined .target first second (first.insertMany profile records)
      (second.insertMany profile records) := by
  unfold insertMany
  rw [target_eq agree]
  refine .bind (second.frame.target "insert") fun table => ?_
  cases records with
  | nil => exact .refused _
  | cons record rest =>
      dsimp only
      by_cases empty : record.isEmpty = true
      · rw [if_pos empty, if_pos empty]
        exact .refused _
      · rw [if_neg empty, if_neg empty]
        refine .bind (profile.columns record.columns) fun columns => ?_
        refine .bind (cellRows record.columns 0 (record :: rest)) fun rows => ?_
        exact .put .target (fun held => (held.1, some ⟨table, columns, rows⟩, held.2.2)) agree

theorem updateWith_confined (profile : Profile) (changes : Record)
    (agree : first.content .target = second.content .target) :
    Confined .target first second (first.updateWith profile changes)
      (second.updateWith profile changes) := by
  unfold updateWith
  rw [target_eq agree]
  refine .bind (second.frame.target "update") fun table => ?_
  by_cases empty : changes.isEmpty = true
  · rw [if_pos empty, if_pos empty]
    exact .refused _
  · rw [if_neg empty, if_neg empty]
    refine .bind (profile.columns changes.columns) fun columns => ?_
    exact .put .target
      (fun held =>
        (held.1, held.2.1, some ⟨table, columns.zip (changes.map Prod.snd)⟩, held.2.2.2)) agree

theorem deleteRows_confined (agree : first.content .target = second.content .target) :
    Confined .target first second (first.framed first.frame.deleteRows)
      (second.framed second.frame.deleteRows) := by
  unfold Clauses.deleteRows
  rw [target_eq agree]
  refine .framed (second.frame.target "delete") fun table => ?_
  exact .put .target (fun held => (held.1, held.2.1, held.2.2.1, some ⟨table⟩)) agree

theorem orderByRaw_confined (expression : String)
    (agree : first.content .orders = second.content .orders) :
    Confined .orders first second (first.framed (first.frame.orderByRaw expression))
      (second.framed (second.frame.orderByRaw expression)) := by
  refine .framed (checkRaw "order expression" expression) fun _ => ?_
  by_cases empty : (Text.trim expression).isEmpty = true
  · simp only [empty, if_true]
    exact .refused _
  · simp only [empty]
    exact .put .orders (· ++ [⟨Text.trim expression, .ascending, true⟩]) agree

/-- A call is confined to its clause. -/
theorem apply_confined (profile : Profile) (call : Call)
    (agree : first.content call.clause = second.content call.clause) :
    Confined call.clause first second (first.apply profile call) (second.apply profile call) := by
  cases call with
  | readFrom table =>
      refine .framed (profile.table table) fun rendered => ?_
      exact .put .target (fun held => (some ⟨Text.trim table, rendered, none⟩, held.2)) agree
  | readFromAs table aliasName =>
      refine .framed (profile.table table) fun rendered => ?_
      refine .framed (profile.aliasName aliasName) fun named => ?_
      exact .put .target (fun held => (some ⟨Text.trim table, rendered, some named⟩, held.2)) agree
  | select columns =>
      exact .framed (profile.columns columns) fun names => .put .projection (fun _ => names) agree
  | selectColumns text =>
      exact .framed (profile.columns _) fun names => .put .projection (fun _ => names) agree
  | selectAliased pairs =>
      exact .framed (pairs.mapM _) fun names => .put .projection (fun _ => names) agree
  | addSelect columns =>
      exact .framed (profile.columns columns) fun names => .put .projection (· ++ names) agree
  | distinct => exact .put .distinct (fun _ => true) agree
  | join kind table left operator right =>
      refine .framed (profile.table table) fun rendered => ?_
      refine .framed (Operator.read operator) fun comparison => ?_
      refine .framed (profile.column left) fun one => ?_
      refine .framed (profile.column right) fun other => ?_
      exact .put .joins
        (· ++ [⟨kind, rendered, some (one ++ " " ++ comparison.text ++ " " ++ other)⟩]) agree
  | crossJoin table =>
      refine .framed (profile.table table) fun rendered => ?_
      exact .put .joins (· ++ [⟨.cross, rendered, none⟩]) agree
  | joinRaw kind table condition =>
      refine .framed (profile.table table) fun rendered => ?_
      refine .framed (checkRaw "join condition" condition) fun _ => ?_
      exact .put .joins
        (· ++ [⟨kind, rendered, if kind = .cross then none else some (Text.trim condition)⟩]) agree
  | groupBy columns =>
      exact .framed (profile.columns columns) fun names => .put .groups (· ++ names) agree
  | having column operator value => exact having_confined _ agree
  | havingRaw sql values => exact having_confined _ agree
  | orderBy column direction =>
      refine .framed (profile.column column) fun rendered => ?_
      exact .put .orders (· ++ [⟨rendered, direction, false⟩]) agree
  | orderByRaw expression => exact orderByRaw_confined expression agree
  | limit number =>
      refine .framed (nonNegative "limit" number) fun count => ?_
      exact .put .limit (fun _ => some count) agree
  | offset number =>
      refine .framed (nonNegative "offset" number) fun count => ?_
      exact .put .offset (fun _ => some count) agree
  | compare combinator column operator value => exact filtered_confined combinator _ agree
  | membership combinator negated column values => exact filtered_confined combinator _ agree
  | between combinator negated column low high => exact filtered_confined combinator _ agree
  | nullTest combinator negated column => exact filtered_confined combinator _ agree
  | whereRaw combinator sql values => exact filtered_confined combinator _ agree
  | group combinator calls => exact group_confined combinator _ agree
  | whereDate column operator date => exact filtered_confined .and _ agree
  | whereYear column operator year => exact filtered_confined .and _ agree
  | whereMonth column operator month => exact filtered_confined .and _ agree
  | whereDay column operator day => exact filtered_confined .and _ agree
  | whereToday column => exact filtered_confined .and _ agree
  | whereYesterday column => exact filtered_confined .and _ agree
  | whereLastDays column days => exact filtered_confined .and _ agree
  | whereBetweenDates column start stop => exact filtered_confined .and _ agree
  | insert records => exact insertMany_confined profile records agree
  | update changes => exact updateWith_confined profile changes agree
  | delete => exact deleteRows_confined agree
  | raw sql values => exact .put .raw (fun _ => some ⟨sql, values⟩) agree
  | cache options => exact .map options.check fun _ => .put .reading id agree
  | noCache => exact .put .reading id agree
  | encrypt fields => exact .put .reading id agree

variable {profile : Profile}

theorem content_apply {draft next : Draft} {call : Call}
    (accepted : draft.apply profile call = .ok next) {clause : Clause}
    (other : call.clause ≠ clause) : next.content clause = draft.content clause := by
  have confined := apply_confined profile call (Eq.refl (draft.content call.clause))
  rw [accepted] at confined
  cases confined with
  | done _ left _ => exact left clause (Ne.symm other)

theorem apply_alike {draft next own : Draft} {call : Call}
    (accepted : draft.apply profile call = .ok next)
    (agree : own.content call.clause = draft.content call.clause) :
    ∃ further, own.apply profile call = .ok further ∧
      further.content call.clause = next.content call.clause := by
  have confined := apply_confined profile call agree
  rw [accepted] at confined
  cases made : own.apply profile call with
  | error error =>
      rw [made] at confined
      cases confined
  | ok further =>
      rw [made] at confined
      cases confined with
      | done alike _ _ => exact ⟨further, rfl, alike⟩

theorem exists_apply_of_mem {calls : List Call} {call : Call} (member : call ∈ calls) :
    ∀ {draft reached : Draft}, draft.applyAll profile calls = .ok reached →
      ∃ held next : Draft, held.apply profile call = .ok next := by
  induction calls with
  | nil => cases member
  | cons first rest ih =>
      intro draft reached accepted
      obtain ⟨next, step, further⟩ := applyAll_cons_ok accepted
      rcases List.mem_cons.mp member with here | there
      · exact ⟨draft, next, here ▸ step⟩
      · exact ih there further

/-- What accepted calls leave in a clause, the calls of that clause leave there alone. -/
theorem applyAll_within {calls : List Call} (clause : Clause) :
    ∀ {draft reached own : Draft}, draft.applyAll profile calls = .ok reached →
      own.content clause = draft.content clause →
      ∃ final, own.applyAll profile (Call.within clause calls) = .ok final ∧
        final.content clause = reached.content clause := by
  induction calls with
  | nil =>
      intro draft reached own accepted agree
      cases accepted
      exact ⟨own, rfl, agree⟩
  | cons call rest ih =>
      intro draft reached own accepted agree
      obtain ⟨next, step, further⟩ := applyAll_cons_ok accepted
      by_cases concerned : call.clause = clause
      · rw [Call.within_own rest concerned]
        subst concerned
        obtain ⟨following, made, alike⟩ := apply_alike step agree
        obtain ⟨final, run, same⟩ := ih further alike
        refine ⟨final, ?_, same⟩
        rw [applyAll, made]
        exact run
      · rw [Call.within_other rest concerned]
        exact ih further (agree.trans (content_apply step concerned).symm)

/-- Calls are accepted if in each clause those that concern it are. -/
theorem applyAll_accepted {calls : List Call} :
    ∀ {draft : Draft},
      (∀ clause, ∃ own final : Draft, own.content clause = draft.content clause ∧
        own.applyAll profile (Call.within clause calls) = .ok final) →
      ∃ reached, draft.applyAll profile calls = .ok reached := by
  induction calls with
  | nil => exact fun _ => ⟨_, rfl⟩
  | cons call rest ih =>
      intro draft each
      -- The call comes first among those of its clause, and in no other clause does it occur.
      obtain ⟨own, final, agree, run⟩ := each call.clause
      rw [Call.within_own rest rfl] at run
      obtain ⟨following, made, further⟩ := applyAll_cons_ok run
      obtain ⟨next, step, alike⟩ := apply_alike made agree.symm
      have remaining : ∀ clause, ∃ own final : Draft, own.content clause = next.content clause ∧
          own.applyAll profile (Call.within clause rest) = .ok final := by
        intro clause
        by_cases concerned : call.clause = clause
        · subst concerned
          exact ⟨following, final, alike.symm, further⟩
        · obtain ⟨other, last, same, apart⟩ := each clause
          rw [Call.within_other rest concerned] at apart
          exact ⟨other, last, same.trans (content_apply step concerned).symm, apart⟩
      obtain ⟨reached, done⟩ := ih remaining
      refine ⟨reached, ?_⟩
      rw [applyAll, step]
      exact done

theorem reading_accepted {calls : List Call} {draft reached : Draft}
    (accepted : draft.applyAll profile calls = .ok reached) {readings : List Call} :
    (∀ call ∈ readings, call ∈ calls ∧ call.clause = .reading) →
      ∀ own : Draft, ∃ final, own.applyAll profile readings = .ok final := by
  induction readings with
  | nil => exact fun _ own => ⟨own, rfl⟩
  | cons call rest ih =>
      intro among own
      obtain ⟨member, reads⟩ := among call List.mem_cons_self
      obtain ⟨held, next, step⟩ := exists_apply_of_mem member accepted
      have agree : own.content call.clause = held.content call.clause := by rw [reads]
      obtain ⟨following, made, _⟩ := apply_alike step agree
      obtain ⟨final, run⟩ := ih
        (fun other later => among other (List.mem_cons_of_mem call later)) following
      refine ⟨final, ?_⟩
      rw [applyAll, made]
      exact run

end Draft

theorem Clauses.draft_ext {first second : Clauses}
    (agree : ∀ clause, first.draft.content clause = second.draft.content clause) :
    first.draft = second.draft := by
  have columns : first.columns = second.columns := agree .projection
  have distinct : first.distinct = second.distinct := agree .distinct
  have joins : first.joins = second.joins := agree .joins
  have groups : first.groups = second.groups := agree .groups
  have orders : first.orders = second.orders := agree .orders
  have limit : first.limit = second.limit := agree .limit
  have offset : first.offset = second.offset := agree .offset
  obtain ⟨source, writes⟩ := Prod.mk.inj (agree .target)
  obtain ⟨insertion, others⟩ := Prod.mk.inj writes
  obtain ⟨assignment, delete⟩ := Prod.mk.inj others
  change first.source = second.source at source
  change first.delete = second.delete at delete
  have frame : first.frame = second.frame := by
    unfold Clauses.frame
    rw [columns, distinct, source, joins, groups, orders, limit, offset, delete]
  exact (Draft.mk.injEq ..).mpr
    ⟨frame, agree .wheres, agree .havings, insertion, assignment, agree .raw⟩

theorem Builder.exists_of_draft {profile : Profile} {calls : List Call} {draft : Draft}
    (cacheable : Bool) (meant : Draft.applyAll profile {} calls = .ok draft) :
    ∃ builder, ({ profile := profile, cacheable := cacheable } : Builder).applyAll calls =
      .ok builder ∧ builder.clauses.draft = draft := by
  have follows := Builder.applyAll_follows
    { profile := profile, cacheable := cacheable } Clauses.aligned_empty calls
  obtain ⟨clauses, made, stands⟩ := exists_of_map_ok (follows.same.trans meant)
  obtain ⟨builder, reached, own⟩ := exists_of_map_ok made
  exact ⟨builder, reached, own ▸ stands⟩

/-- Two programs that make the same calls in each clause, in the same order there, are accepted
together and compile to one statement, however their clauses are interleaved. How the result is read
may be said in any order. -/
theorem clauses_commute (profile : Profile) (cacheable : Bool) (first second : List Call)
    (same : ∀ clause, clause ≠ .reading → Call.within clause first = Call.within clause second)
    (readings : (Call.within .reading first).Perm (Call.within .reading second))
    (builder : Builder)
    (reached : ({ profile := profile, cacheable := cacheable } : Builder).applyAll first =
      .ok builder) :
    ∃ other statement,
      ({ profile := profile, cacheable := cacheable } : Builder).applyAll second = .ok other ∧
      builder.statement = .ok statement ∧ other.statement = .ok statement := by
  obtain ⟨kind, aligned, meant⟩ := Builder.reached_draft reached
  have apart : ∀ clause, ∃ final,
      ({} : Draft).applyAll profile (Call.within clause second) = .ok final ∧
        final.content clause = builder.clauses.draft.content clause := by
    intro clause
    by_cases reads : clause = .reading
    · subst reads
      have among : ∀ call ∈ Call.within .reading second,
          call ∈ first ∧ call.clause = .reading := by
        intro call member
        obtain ⟨listed, own⟩ := List.mem_filter.mp (readings.mem_iff.mpr member)
        exact ⟨listed, of_decide_eq_true own⟩
      obtain ⟨final, run⟩ := Draft.reading_accepted meant among {}
      exact ⟨final, run, rfl⟩
    · rw [← same clause reads]
      exact Draft.applyAll_within clause meant rfl
  obtain ⟨draft, accepted⟩ : ∃ draft, ({} : Draft).applyAll profile second = .ok draft := by
    apply Draft.applyAll_accepted
    intro clause
    obtain ⟨final, run, _⟩ := apart clause
    exact ⟨{}, final, rfl, run⟩
  obtain ⟨other, done, stands⟩ := Builder.exists_of_draft cacheable accepted
  obtain ⟨otherKind, otherAligned, _⟩ := Builder.reached_draft done
  have one : other.clauses.draft = builder.clauses.draft := by
    apply Clauses.draft_ext
    intro clause
    obtain ⟨final, run, agree⟩ := apart clause
    obtain ⟨again, rerun, alike⟩ := Draft.applyAll_within clause accepted (Eq.refl _)
    rw [run] at rerun
    cases rerun
    rw [stands, ← alike, agree]
  refine ⟨other, builder.clauses.draft.statement profile, done, ?_, ?_⟩
  · unfold Builder.statement
    rw [Clauses.compile_eq aligned, kind]
  · unfold Builder.statement
    rw [Clauses.compile_eq otherAligned, otherKind, one]

/-- The values of the update are bound between those of its conditions. -/
def reminderCalls : List Call :=
  [.readFrom "users", .compare .and "age" ">=" (.int 18),
    .update [("name", .string "Ada"), ("seen", .null)],
    .encrypt ["name"],
    .group .or [.membership .and false "role" [.string "admin", .string "owner"]], .limit 5,
    .cache { key := some "reminder" }, .having "total" ">" (.int 7)]

def lateReminderCalls : List Call :=
  [.readFrom "users", .cache { key := some "reminder" }, .encrypt ["name"],
    .having "total" ">" (.int 7), .compare .and "age" ">=" (.int 18), .limit 5,
    .group .or [.membership .and false "role" [.string "admin", .string "owner"]],
    .update [("name", .string "Ada"), ("seen", .null)]]

theorem late_reminder_is_the_same :
    ∃ builder other statement,
      ({ profile := Dialect.postgresql.profile } : Builder).applyAll reminderCalls = .ok builder ∧
      ({ profile := Dialect.postgresql.profile } : Builder).applyAll lateReminderCalls =
        .ok other ∧
      builder.statement = .ok statement ∧ other.statement = .ok statement ∧
      builder.clauses.bindings ≠ other.clauses.bindings := by
  have facts : (do
      let builder ← ({ profile := Dialect.postgresql.profile } : Builder).applyAll reminderCalls
      let other ← ({ profile := Dialect.postgresql.profile } : Builder).applyAll lateReminderCalls
      pure (builder.clauses.bindings.values.map Value.isNull,
        other.clauses.bindings.values.map Value.isNull)).toOption =
      some ([false, false, true, false, false, false],
        [false, false, false, false, false, true]) := by decide +kernel
  obtain ⟨builder, reached, further⟩ := exists_of_bind_ok (ok_of_toOption facts)
  obtain ⟨last, bound, listed⟩ := exists_of_bind_ok further
  obtain ⟨one, two⟩ := Prod.mk.inj (Except.ok.inj listed)
  obtain ⟨other, statement, done, compiled, same⟩ :=
    clauses_commute Dialect.postgresql.profile false reminderCalls lateReminderCalls
      (fun clause other => by
        cases clause with
        | reading => exact absurd rfl other
        | _ => rfl)
      (.swap _ _ []) builder reached
  cases bound.symm.trans done
  refine ⟨builder, last, statement, reached, done, compiled, same, ?_⟩
  intro alike
  rw [alike, two] at one
  cases one

end BoundQuery
