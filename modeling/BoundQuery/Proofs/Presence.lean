import BoundQuery.Proofs.NumberedPages
import BoundQuery.Proofs.ReadThrough

/-!
Whether there is a row, and how many there are. The two questions are asked about the same rows, but
the first of them is asked behind the builder's own offset: only the rows that the offset leaves are
seen, and where there are none of these the answer is no, however many are counted.
-/

set_option autoImplicit false

namespace BoundQuery

namespace Clauses

/-- A query that selects as the clauses say what the given text matches. -/
def queryOver (profile : Profile) (clauses : Clauses) (matching : String)
    (bindings : List Value) : Statement :=
  ⟨clauses.projectionText ++ matching ++ clauses.orderText ++ clauses.pagingText profile, bindings⟩

/-- What is asked to count the rows; an aggregate has neither order nor paging. -/
def counting (clauses : Clauses) : Clauses :=
  clauses.forAggregate ("COUNT(*) AS " ++ aggregateAlias)

/-- What is asked to see whether there is a row; the offset stays. -/
def probing (clauses : Clauses) : Clauses :=
  { clauses with columns := ["1 AS present"], orders := [], limit := some 1 }

/-- The rows that are left behind the offset, within the limit. -/
def paged (clauses : Clauses) (rows : List Row) : List Row :=
  let behind := rows.drop (clauses.offset.getD 0)
  match clauses.limit with
  | none => behind
  | some count => behind.take count

theorem paged_probing_isEmpty (clauses : Clauses) {rows shown : List Row}
    (same : shown.length = (clauses.probing.paged rows).length) :
    (!shown.isEmpty) = decide (clauses.offset.getD 0 < rows.length) := by
  change shown.length = ((rows.drop (clauses.offset.getD 0)).take 1).length at same
  rw [List.length_take, List.length_drop] at same
  rw [Bool.eq_iff_iff, Bool.not_eq_true', decide_eq_true_eq, List.isEmpty_eq_false_iff,
    ← List.length_pos_iff, same]
  omega

end Clauses

def Draft.matchingText (profile : Profile) (draft : Draft) : String :=
  draft.frame.sourceText ++ String.ofList
    (Piece.writeFrom profile.placeholder 1 (conditionPieces "WHERE" draft.wheres))

theorem Draft.statement_ungrouped {profile : Profile} {draft : Draft}
    (idle : draft.isWrite = false) (groups : draft.frame.groups = [])
    (havings : draft.havings = []) :
    Piece.statement profile (draft.pieces profile) =
      draft.frame.queryOver profile (draft.matchingText profile)
        (Piece.values (conditionPieces "WHERE" draft.wheres)) := by
  have tail : draft.tailPieces profile =
      [.sql "", .sql (draft.frame.orderText ++ draft.frame.pagingText profile)] := by
    unfold tailPieces conditionPieces Clauses.groupText
    rw [groups, havings]
    rfl
  have values : Piece.values (draft.pieces profile) =
      Piece.values (conditionPieces "WHERE" draft.wheres) := by
    rw [pieces_of_idle idle, tail, List.cons_append]
    change Piece.values (_ ++ _) = _
    rw [Piece.values_append]
    exact List.append_nil _
  unfold Piece.statement Clauses.queryOver
  rw [values]
  congr 1
  rw [← String.toList_inj, String.toList_ofList, pieces_of_idle idle, tail, List.cons_append,
    Piece.writeFrom, Piece.writeFrom_append, headText, matchingText]
  simp only [Piece.writeFrom, String.toList_append, String.toList_ofList, List.append_assoc,
    List.append_nil, List.nil_append, String.toList_empty]

section Statements

variable {builder : Builder} (aligned : builder.clauses.Aligned)
variable (typed : builder.clauses.raw = none) (idle : builder.clauses.isWrite = false)
variable (groups : builder.clauses.groups = []) (havings : builder.clauses.havings = [])

include aligned typed idle groups havings

/-- The three statements are about the same rows. -/
theorem Builder.ungrouped_statements (distinct : builder.clauses.distinct = false) :
    ∃ matching bindings,
      builder.statement =
        .ok (builder.clauses.queryOver builder.profile matching bindings) ∧
      builder.statementOf .count =
        .ok (builder.clauses.counting.queryOver builder.profile matching bindings) ∧
      builder.statementOf .presence =
        .ok (builder.clauses.probing.queryOver builder.profile matching bindings) := by
  let draft := builder.clauses.draft
  have still : draft.isWrite = false := by rw [Clauses.draft_isWrite, idle]
  have none : draft.havings = [] := by
    change builder.clauses.havings.map _ = []
    rw [havings]
    rfl
  have about : ∀ change : Clauses → Clauses, (change draft.frame).groups = [] →
      (draft.reframe change).isWrite = false →
        (change draft.frame).sourceText = draft.frame.sourceText →
          Piece.statement builder.profile ((draft.reframe change).pieces builder.profile) =
            (change draft.frame).queryOver builder.profile (draft.matchingText builder.profile)
              (Piece.values (Draft.conditionPieces "WHERE" draft.wheres)) := by
    intro change ungrouped reading sources
    rw [Draft.statement_ungrouped reading ungrouped none]
    unfold Draft.matchingText
    rw [← sources]
    rfl
  have allowed : ∀ terminal, draft.requireSelect terminal = .ok () := by
    intro terminal
    unfold Draft.requireSelect
    rw [still, Clauses.draft_raw typed]
    rfl
  refine ⟨draft.matchingText builder.profile,
    Piece.values (Draft.conditionPieces "WHERE" draft.wheres), ?_, ?_, ?_⟩
  · exact (Builder.statementOf_eq aligned typed .whole).trans
      (congrArg Except.ok (about id groups still rfl))
  · rw [Builder.statementOf_eq aligned typed .count]
    change Except.map _ (draft.aggregatePieces builder.profile "COUNT(*)") = _
    unfold Draft.aggregatePieces
    rw [allowed]
    change Except.map _ (if builder.clauses.groups.isEmpty && !builder.clauses.distinct then _
      else _) = _
    rw [groups, distinct]
    exact congrArg Except.ok (about Clauses.counting groups still rfl)
  · rw [Builder.statementOf_eq aligned typed .presence]
    change Except.map _ (draft.requireSelect "exists" >>= _) = _
    rw [allowed]
    exact congrArg Except.ok (about Clauses.probing groups still rfl)

end Statements

/-! ### What the executor answers, at once or through a cache -/

variable {World : Type}

/-- The executor selects: as many rows as the paging leaves of those that match. -/
def Executor.Selects (executor : Executor World) (statement : Statement) (clauses : Clauses)
    (matching : List Row) : Prop :=
  ∀ world, ∃ output, (executor.query statement.sql statement.bindings world).1 = .ok output ∧
    output.rows.length = (clauses.paged matching).length

namespace Engine

variable {engine : Engine World} {builder : Builder} {request : Request} {statement : Statement}
variable {session : Session World}

/-- What a cache holds for the request, if it is asked at all, is an answer of the executor. -/
def Faithful (engine : Engine World) (builder : Builder) (request : Request)
    (session : Session World) : Prop :=
  ∀ cache key statement output, engine.cache = some cache →
    engine.keyOf? builder request = some (key, statement) →
    (cache.get QueryOutput.ofJson? key session).1 = some output →
      ∃ world, (engine.executor.query statement.sql statement.bindings world).1 = .ok output

theorem faithful_of_unkeyed (unkeyed : engine.keyOf? builder request = none) :
    engine.Faithful builder request session := by
  intro cache key statement output _ keyed
  rw [unkeyed] at keyed
  cases keyed

theorem runQuery_outcome_eq (session : Session World) :
    ((engine.runQuery statement).run session).1 =
      (engine.executor.query statement.sql statement.bindings session.world).1.mapError
        (fun error => error.attachStatement statement.sql statement.bindings) :=
  rfl

theorem read_answered {holds : QueryOutput → Prop}
    (made : builder.statementOf request = .ok statement)
    (faithful : engine.Faithful builder request session)
    (answers : ∀ world, ∃ output,
      (engine.executor.query statement.sql statement.bindings world).1 = .ok output ∧
        holds output) :
    ∃ output, ((engine.read builder request).run session).1 =
      .ok (engine.decrypt builder output) ∧ holds output := by
  cases keyed : engine.keyOf? builder request with
  | none =>
      obtain ⟨output, answered, good⟩ := answers session.world
      refine ⟨output, ?_, good⟩
      rw [read_unkeyed made keyed, Action.run_bind_pure, runQuery_outcome_eq, answered]
      rfl
  | some use =>
      obtain ⟨key, other⟩ := use
      obtain rfl : other = statement :=
        Except.ok.inj ((statement_of_keyOf? keyed).symm.trans made)
      cases kept : engine.cache with
      | none =>
          unfold keyOf? at keyed
          rw [kept] at keyed
          cases keyed
      | some cache =>
          rw [read_through kept keyed]
          have held := faithful cache key other
          cases looked : cache.get QueryOutput.ofJson? key session with
          | mk found missed =>
              cases found with
              | some output =>
                  obtain ⟨world, given⟩ := held output kept keyed (congrArg Prod.fst looked)
                  obtain ⟨same, answered, good⟩ := answers world
                  obtain rfl : output = same := Except.ok.inj (given.symm.trans answered)
                  exact ⟨output, rfl, good⟩
              | none =>
                  obtain ⟨output, answered, good⟩ := answers missed.world
                  refine ⟨output, ?_, good⟩
                  have asked : ((engine.runQuery other).run missed).1 = .ok output := by
                    rw [runQuery_outcome_eq, answered]
                    rfl
                  dsimp only
                  cases ran : (engine.runQuery other).run missed with
                  | mk outcome after =>
                      rw [ran] at asked
                      cases asked
                      rfl

theorem aggregateOf_decrypt {output : QueryOutput} {row : Row} {others : List Row}
    {number : Number} (given : output.rows = row :: others)
    (named : row.lookup aggregateAlias = some (.number number)) :
    aggregateOf (engine.decrypt builder output).rows = .number number := by
  unfold decrypt
  cases engine.decryptor with
  | none =>
      dsimp only
      rw [given, aggregateOf, named]
  | some decryptor =>
      dsimp only
      rw [given, Decryptor.decryptRows, List.map_cons, aggregateOf,
        decryptor.lookup_decryptRow_number builder.encrypted row named]

theorem count_answered {counting : Statement} {count : Nat}
    (counted : builder.statementOf .count = .ok counting)
    (faithful : engine.Faithful builder .count session)
    (counts : engine.executor.Counts counting count) :
    ((engine.count builder).run session).1 = .ok count := by
  have answers : ∀ world, ∃ output,
      (engine.executor.query counting.sql counting.bindings world).1 = .ok output ∧
        ∃ row others, output.rows = row :: others ∧
          row.lookup aggregateAlias = some (.number (.int count)) := by
    intro world
    obtain ⟨output, row, others, answered, given, named⟩ := counts world
    exact ⟨output, answered, row, others, given, named⟩
  obtain ⟨output, run, row, others, given, named⟩ := read_answered counted faithful answers
  rw [count_eq_read, Action.run_map]
  dsimp only
  rw [run]
  simp only [Except.map, aggregateOf_decrypt given named, countOf?_number, Option.getD_some]

theorem hasRows_answered {probe : Statement} {matching : List Row}
    (probed : builder.statementOf .presence = .ok probe)
    (faithful : engine.Faithful builder .presence session)
    (selects : engine.executor.Selects probe builder.clauses.probing matching) :
    ((engine.hasRows builder).run session).1 =
      .ok (decide (builder.clauses.offset.getD 0 < matching.length)) := by
  obtain ⟨output, run, length⟩ := read_answered probed faithful selects
  rw [hasRows_eq_read, Action.run_map]
  dsimp only
  rw [run]
  exact congrArg Except.ok
    (builder.clauses.paged_probing_isEmpty (engine.length_decrypt builder output ▸ length))

end Engine

/-- Both questions are about the same rows, but the probe keeps the builder's offset, which the
count leaves out: there is a row exactly if more are counted than the offset skips. -/
theorem presence_is_count_behind_offset (engine : Engine World) (calls : List Call)
    (builder : Builder) (reached : engine.query.applyAll calls = .ok builder)
    (typed : ∀ call ∈ calls, call.isRaw = false) (idle : builder.clauses.isWrite = false)
    (groups : builder.clauses.groups = []) (havings : builder.clauses.havings = [])
    (distinct : builder.clauses.distinct = false) :
    ∃ matching bindings,
      builder.statement = .ok (builder.clauses.queryOver builder.profile matching bindings) ∧
      builder.statementOf .count =
        .ok (builder.clauses.counting.queryOver builder.profile matching bindings) ∧
      builder.statementOf .presence =
        .ok (builder.clauses.probing.queryOver builder.profile matching bindings) ∧
      ∀ rows : List Row,
        engine.executor.Counts
          (builder.clauses.counting.queryOver builder.profile matching bindings) rows.length →
        engine.executor.Selects
          (builder.clauses.probing.queryOver builder.profile matching bindings)
          builder.clauses.probing rows →
        ∀ first second : Session World, engine.Faithful builder .count first →
          engine.Faithful builder .presence second →
          ∃ count present, ((engine.count builder).run first).1 = .ok count ∧
            ((engine.hasRows builder).run second).1 = .ok present ∧ count = rows.length ∧
              (present = true ↔ builder.clauses.offset.getD 0 < count) := by
  obtain ⟨_, aligned, meant⟩ := Builder.reached_draft reached
  have unset := Clauses.raw_of_draft typed meant
  obtain ⟨matching, bindings, whole, counted, probed⟩ :=
    Builder.ungrouped_statements aligned unset idle groups havings distinct
  refine ⟨matching, bindings, whole, counted, probed, ?_⟩
  intro rows counts selects first second honest faithful
  exact ⟨_, _, Engine.count_answered counted honest counts,
    Engine.hasRows_answered probed faithful selects, rfl, decide_eq_true_iff⟩

def twoUsers : List Row :=
  [[("id", .number (.int 1))], [("id", .number (.int 2))]]

def twoUsersExecutor : Executor Unit :=
  { query := fun sql _ outside =>
      (.ok { rows :=
        if sql = "SELECT COUNT(*) AS aggregate FROM \"users\"" then
          [[("aggregate", .number (.int 2))]]
        else if sql = "SELECT 1 AS present FROM \"users\" LIMIT 1 OFFSET 1" then
          [[("present", .number (.int 1))]]
        else [] }, outside)
    execute := fun _ _ outside => (.ok {}, outside) }

def twoUsersEngine : Engine Unit :=
  { executor := twoUsersExecutor, profile := Dialect.sqlite.profile }

def usersBehind (offset : Nat) : Builder :=
  { profile := Dialect.sqlite.profile
    clauses := { source := some ⟨"users", "\"users\"", none⟩, offset := some offset } }

theorem second_user_is_present :
    twoUsersEngine.query.applyAll [.readFrom "users", .offset 1] = .ok (usersBehind 1) ∧
      ∀ session : Session Unit,
        ((twoUsersEngine.count (usersBehind 1)).run session).1 = .ok 2 ∧
        ((twoUsersEngine.hasRows (usersBehind 1)).run session).1 = .ok true := by
  have reached : twoUsersEngine.query.applyAll [.readFrom "users", .offset 1] =
      .ok (usersBehind 1) := rfl
  refine ⟨reached, fun session => ?_⟩
  obtain ⟨matching, bindings, _, counted, probed, agree⟩ :=
    presence_is_count_behind_offset twoUsersEngine _ _ reached (by decide) rfl rfl rfl rfl
  have asked : (usersBehind 1).statementOf .count =
      .ok ⟨"SELECT COUNT(*) AS aggregate FROM \"users\"", []⟩ := rfl
  have sent : (usersBehind 1).statementOf .presence =
      .ok ⟨"SELECT 1 AS present FROM \"users\" LIMIT 1 OFFSET 1", []⟩ := rfl
  rw [Except.ok.inj (counted.symm.trans asked), Except.ok.inj (probed.symm.trans sent)] at agree
  obtain ⟨count, present, own, other, number, more⟩ := agree twoUsers
    (fun _ => ⟨_, _, _, rfl, rfl, rfl⟩) (fun _ => ⟨_, rfl, rfl⟩) session session
    (Engine.faithful_of_unkeyed rfl) (Engine.faithful_of_unkeyed rfl)
  rw [own, other, number, more.mpr (by rw [number]; decide)]
  exact ⟨rfl, rfl⟩

/-- Two users match and are counted, and there is none. -/
theorem counted_users_are_not_present :
    twoUsersEngine.query.applyAll [.readFrom "users", .offset 2] = .ok (usersBehind 2) ∧
      ∃ counting probe, (usersBehind 2).statementOf .count = .ok counting ∧
        (usersBehind 2).statementOf .presence = .ok probe ∧
        twoUsersExecutor.Counts counting twoUsers.length ∧
        twoUsersExecutor.Selects probe (usersBehind 2).clauses.probing twoUsers ∧
        ∀ session : Session Unit,
          ((twoUsersEngine.count (usersBehind 2)).run session).1 = .ok 2 ∧
          ((twoUsersEngine.hasRows (usersBehind 2)).run session).1 = .ok false := by
  have asked : (usersBehind 2).statementOf .count =
      .ok ⟨"SELECT COUNT(*) AS aggregate FROM \"users\"", []⟩ := rfl
  have sent : (usersBehind 2).statementOf .presence =
      .ok ⟨"SELECT 1 AS present FROM \"users\" LIMIT 1 OFFSET 2", []⟩ := rfl
  have counts : twoUsersEngine.executor.Counts ⟨"SELECT COUNT(*) AS aggregate FROM \"users\"", []⟩
      twoUsers.length :=
    fun _ => ⟨_, _, _, rfl, rfl, rfl⟩
  have selects : twoUsersEngine.executor.Selects
      ⟨"SELECT 1 AS present FROM \"users\" LIMIT 1 OFFSET 2", []⟩
      (usersBehind 2).clauses.probing twoUsers :=
    fun _ => ⟨_, rfl, rfl⟩
  refine ⟨rfl, _, _, asked, sent, counts, selects, fun session => ⟨?_, ?_⟩⟩
  · exact Engine.count_answered asked (Engine.faithful_of_unkeyed rfl) counts
  · exact Engine.hasRows_answered sent (Engine.faithful_of_unkeyed rfl) selects

end BoundQuery
