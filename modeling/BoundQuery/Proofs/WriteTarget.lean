import BoundQuery.Proofs.Freshness

/-!
Which table a write names and which one it invalidates. The statement goes to the table that was the
source when the write was asked for, an insertion before an update and this before a deletion; what
is invalidated is the source at the end. The two agree unless another table was named in between.
-/

set_option autoImplicit false

namespace BoundQuery

/-- The present source, and the sources at the last call for each kind of write. -/
structure Targets where
  source : Option String := none
  insert : Option String := none
  update : Option String := none
  delete : Option String := none

namespace Targets

def after (targets : Targets) : Call → Targets
  | .readFrom table => { targets with source := some table }
  | .readFromAs table _ => { targets with source := some table }
  | .insert _ => { targets with insert := targets.source }
  | .update _ => { targets with update := targets.source }
  | .delete => { targets with delete := targets.source }
  | _ => targets

def afterAll (targets : Targets) (calls : List Call) : Targets :=
  calls.foldl after targets

/-- The table of the one write that is sent. -/
def sent? (targets : Targets) : Option String :=
  targets.insert <|> targets.update <|> targets.delete

theorem after_of_other {targets : Targets} {call : Call} (idle : call.isWrite = false)
    (unnamed : call.source? = none) : targets.after call = targets := by
  cases call with
  | readFrom table => cases unnamed
  | readFromAs table aliasName => cases unnamed
  | insert records => cases idle
  | update changes => cases idle
  | delete => cases idle
  | _ => rfl

theorem after_of_source {targets : Targets} {call : Call} {table : String}
    (named : call.source? = some table) :
    targets.after call = { targets with source := some table } := by
  cases call with
  | readFrom other =>
      cases named
      rfl
  | readFromAs other aliasName =>
      cases named
      rfl
  | _ => cases named

def Each (Named : String → Prop) (targets : Targets) : Prop :=
  ∀ table, some table ∈ [targets.source, targets.insert, targets.update, targets.delete] →
    Named table

theorem Each.after {Named : String → Prop} {targets : Targets} (each : targets.Each Named)
    {call : Call} (named : ∀ table, call.source? = some table → Named table) :
    (targets.after call).Each Named := by
  intro table member
  have reading {other : String} (own : Named other)
      (listed : some table ∈ [some other, targets.insert, targets.update, targets.delete]) :
      Named table := by
    rcases List.mem_cons.mp listed with here | there
    · cases here
      exact own
    · exact each table (List.mem_cons_of_mem _ there)
  cases call with
  | readFrom other => exact reading (named other rfl) member
  | readFromAs other aliasName => exact reading (named other rfl) member
  | insert | update | delete =>
      apply each table
      simp only [Targets.after, List.mem_cons, List.not_mem_nil, or_false] at member ⊢
      tauto
  | _ => exact each table member

theorem Each.afterAll {Named : String → Prop} {calls : List Call}
    (named : ∀ call ∈ calls, ∀ table, call.source? = some table → Named table) :
    ∀ {targets : Targets}, targets.Each Named → (targets.afterAll calls).Each Named := by
  induction calls with
  | nil => exact fun each => each
  | cons call rest ih =>
      intro targets each
      exact ih (fun other member => named other (List.mem_cons_of_mem _ member))
        (each.after (named call List.mem_cons_self))

theorem Each.sent {Named : String → Prop} {targets : Targets} (each : targets.Each Named)
    {table : String} (sent : targets.sent? = some table) : Named table := by
  apply each
  unfold sent? at sent
  cases first : targets.insert with
  | some other =>
      rw [first] at sent
      simp [← sent]
  | none =>
      cases second : targets.update with
      | some other =>
          rw [first, second] at sent
          simp [← sent]
      | none =>
          rw [first, second] at sent
          simp [← sent]

def Rooted (targets : Targets) : Prop :=
  targets.source = none → targets.sent? = none

theorem Rooted.after {targets : Targets} (rooted : targets.Rooted) (call : Call) :
    (targets.after call).Rooted := by
  have idle (unset : targets.source = none) : targets.insert = none ∧ targets.update = none ∧
      targets.delete = none := by
    have all := rooted unset
    simpa [sent?, Option.or_eq_none_iff] using all
  cases call with
  | readFrom table => exact fun impossible => by cases impossible
  | readFromAs table aliasName => exact fun impossible => by cases impossible
  | insert | update | delete =>
      intro unset
      change targets.source = none at unset
      obtain ⟨insert, update, delete⟩ := idle unset
      simp [Targets.after, sent?, unset, insert, update, delete]
  | _ => exact rooted

theorem Rooted.afterAll {calls : List Call} :
    ∀ {targets : Targets}, targets.Rooted → (targets.afterAll calls).Rooted := by
  induction calls with
  | nil => exact fun rooted => rooted
  | cons call rest ih => exact fun rooted => ih (rooted.after call)

theorem Rooted.exists_source {targets : Targets} (rooted : targets.Rooted) {sent : String}
    (target : targets.sent? = some sent) : ∃ last, targets.source = some last := by
  cases source : targets.source with
  | none =>
      rw [rooted source] at target
      cases target
  | some last => exact ⟨last, rfl⟩

end Targets

/-! ### Writes in a draft -/

/-- Where this succeeds, a pending deletion has stayed as it was. -/
def Clauses.Spares (before : Clauses) (result : Except QueryError Clauses) : Prop :=
  ∀ after, result = .ok after → after.delete = before.delete

namespace Clauses.Spares

variable {before : Clauses}

theorem pure {after : Clauses} (same : after.delete = before.delete) :
    before.Spares (.ok after) := by
  intro other done
  cases done
  exact same

theorem bind {Item : Type} {source : Except QueryError Item}
    {next : Item → Except QueryError Clauses} (each : ∀ item, before.Spares (next item)) :
    before.Spares (source >>= next) := by
  intro after done
  obtain ⟨item, _, further⟩ := exists_of_bind_ok done
  exact each item after further

end Clauses.Spares

namespace Draft

variable {profile : Profile} {draft next : Draft}

structure SameWrites (before after : Draft) : Prop where
  insertion : after.insertion = before.insertion
  assignment : after.assignment = before.assignment
  delete : after.frame.delete = before.frame.delete

namespace SameWrites

theorem refl (draft : Draft) : SameWrites draft draft :=
  ⟨rfl, rfl, rfl⟩

theorem of_map {Item : Type} {source : Except QueryError Item} {change : Item → Draft}
    (applied : source.map change = .ok next) (each : ∀ item, SameWrites draft (change item)) :
    SameWrites draft next := by
  cases source with
  | error error => cases applied
  | ok item =>
      cases applied
      exact each item

theorem of_framed {result : Except QueryError Clauses}
    (applied : draft.framed result = .ok next) (spared : draft.frame.Spares result) :
    SameWrites draft next := by
  have same := spared next.frame (framed_ok applied)
  cases result with
  | error error => cases applied
  | ok frame =>
      cases applied
      exact ⟨rfl, rfl, same⟩

theorem addGroup (draft : Draft) (combinator : Combinator) (inner : Draft) :
    SameWrites draft (draft.addGroup combinator inner) := by
  unfold Draft.addGroup
  split
  · exact refl draft
  · exact ⟨rfl, rfl, rfl⟩

end SameWrites

open Clauses (Spares)

theorem apply_sameWrites {call : Call} (idle : call.isWrite = false)
    (applied : draft.apply profile call = .ok next) : SameWrites draft next := by
  cases call with
  | insert records => cases idle
  | update changes => cases idle
  | delete => cases idle
  | readFrom | select | selectColumns | selectAliased | addSelect | crossJoin | groupBy | orderBy
  | limit | offset =>
      simp only [apply] at applied
      exact .of_framed applied (Spares.bind fun _ => Spares.pure rfl)
  | readFromAs | joinRaw =>
      simp only [apply] at applied
      exact .of_framed applied (Spares.bind fun _ => Spares.bind fun _ => Spares.pure rfl)
  | distinct =>
      simp only [apply] at applied
      exact .of_framed applied (Spares.pure rfl)
  | join kind table first operator second =>
      simp only [apply] at applied
      exact .of_framed applied (Spares.bind fun _ => Spares.bind fun _ => Spares.bind fun _ =>
        Spares.bind fun _ => Spares.pure rfl)
  | orderByRaw expression =>
      simp only [apply] at applied
      refine .of_framed applied (Spares.bind fun _ => ?_)
      dsimp only
      split
      · intro after impossible
        cases impossible
      · exact Spares.pure rfl
  | group combinator calls =>
      simp only [apply] at applied
      exact .of_map applied (SameWrites.addGroup draft combinator)
  | raw sql values =>
      cases applied
      exact ⟨rfl, rfl, rfl⟩
  | cache options =>
      simp only [apply] at applied
      exact .of_map applied (fun _ => SameWrites.refl draft)
  | noCache =>
      cases applied
      exact SameWrites.refl draft
  | encrypt fields =>
      cases applied
      exact SameWrites.refl draft
  | _ =>
      simp only [apply] at applied
      exact .of_map applied (fun _ => ⟨rfl, rfl, rfl⟩)

structure Aims (profile : Profile) (targets : Targets) (draft : Draft) : Prop where
  source : targets.source.map (fun table => (Text.trim table, profile.table table)) =
    draft.frame.source.map (fun source => (source.name, .ok source.rendered))
  insert : targets.insert.map profile.table =
    draft.insertion.map (fun insertion => .ok insertion.table)
  update : targets.update.map profile.table =
    draft.assignment.map (fun assignment => .ok assignment.table)
  delete : targets.delete.map profile.table =
    draft.frame.delete.map (fun delete => .ok delete.table)

namespace Aims

variable {targets : Targets}

theorem target (aims : draft.Aims profile targets) {operation table : String}
    (named : draft.frame.target operation = .ok table) :
    targets.source.map profile.table = some (.ok table) := by
  have written := congrArg (Option.map Prod.snd) aims.source
  rw [Option.map_map, Option.map_map] at written
  unfold Clauses.target at named
  cases found : draft.frame.source with
  | none =>
      rw [found] at named
      cases named
  | some source =>
      rw [found] at named written
      cases named
      exact written

theorem sameWrites (aims : draft.Aims profile targets) (same : SameWrites draft next)
    {source : Option String}
    (read : source.map (fun table => (Text.trim table, profile.table table)) =
      next.frame.source.map (fun source => (source.name, .ok source.rendered))) :
    next.Aims profile { targets with source := source } :=
  ⟨read, by rw [same.insertion]; exact aims.insert, by rw [same.assignment]; exact aims.update,
    by rw [same.delete]; exact aims.delete⟩

end Aims

theorem apply_aims {dialect : Dialect} {targets : Targets} {call : Call}
    (aims : draft.Aims dialect.profile targets)
    (applied : draft.apply dialect.profile call = .ok next) :
    next.Aims dialect.profile (targets.after call) := by
  by_cases idle : call.isWrite = false
  · have heading := apply_heading applied
    have same := apply_sameWrites idle applied
    cases named : call.source? with
    | none =>
        rw [Targets.after_of_other idle named]
        exact aims.sameWrites same (by rw [heading.source_kept named]; exact aims.source)
    | some table =>
        obtain ⟨source, found, name, written⟩ := heading.source_set named
        rw [Targets.after_of_source named]
        exact aims.sameWrites same (by rw [found, Option.map_some, Option.map_some, name, written])
  · cases call with
    | insert records =>
        simp only [apply] at applied
        obtain ⟨insertion, rfl, named⟩ := insertMany_ok applied
        exact { aims with insert := aims.target named }
    | update changes =>
        simp only [apply] at applied
        obtain ⟨assignment, rfl, named⟩ := updateWith_ok applied
        exact { aims with update := aims.target named }
    | delete =>
        simp only [apply] at applied
        obtain ⟨frame, done, rfl⟩ := exists_of_map_ok applied
        obtain ⟨table, named, same⟩ := exists_of_bind_ok done
        cases same
        exact { aims with delete := aims.target named }
    | _ => exact absurd rfl idle

theorem applyAll_aims {dialect : Dialect} {calls : List Call} :
    ∀ {targets : Targets} {draft next : Draft}, draft.Aims dialect.profile targets →
      draft.applyAll dialect.profile calls = .ok next →
        next.Aims dialect.profile (targets.afterAll calls) := by
  induction calls with
  | nil =>
      intro targets draft next aims applied
      cases applied
      exact aims
  | cons call rest ih =>
      intro targets draft next aims applied
      obtain ⟨middle, own, further⟩ := applyAll_cons_ok applied
      exact ih (apply_aims aims own) further

end Draft

def writeVerbs : List String :=
  ["INSERT INTO ", "UPDATE ", "DELETE FROM "]

/-- The text of a write: its verb, the table as the dialect writes it, and what follows. -/
def SendsTo (dialect : Dialect) (sql table : String) : Prop :=
  ∃ verb ∈ writeVerbs, ∃ rendered rest, dialect.profile.table table = .ok rendered ∧
    sql.toList = verb.toList ++ (rendered.toList ++ rest) ∧ Clear rest

theorem sendsTo_of_text {dialect : Dialect} {table rendered text verb : String}
    (listed : verb ∈ writeVerbs) (middle : List Char)
    (written : dialect.profile.table table = .ok rendered)
    (split : text.toList = verb.toList ++ (rendered.toList ++ middle)) (pieces : List Piece)
    (clear : Clear (middle ++ Piece.writeFrom dialect.profile.placeholder 1 pieces)) :
    SendsTo dialect (Piece.statement dialect.profile (.sql text :: pieces)).sql table := by
  refine ⟨verb, listed, rendered, _, written, ?_, clear⟩
  rw [Piece.statement, String.toList_ofList, Piece.writeFrom, split, List.append_assoc,
    List.append_assoc]

/-- The statement of a write goes to the table that its targets say. -/
theorem Draft.sends_to_target {dialect : Dialect} {targets : Targets} {draft : Draft}
    (aims : draft.Aims dialect.profile targets) (pending : draft.isWrite = true) :
    ∃ sent, targets.sent? = some sent ∧
      SendsTo dialect (Piece.statement dialect.profile (draft.pieces dialect.profile)).sql
        sent := by
  have inserting := aims.insert
  have updating := aims.update
  have deleting := aims.delete
  unfold Draft.isWrite at pending
  unfold Draft.pieces Targets.sent?
  cases first : draft.insertion with
  | some insertion =>
      rw [first] at inserting
      obtain ⟨sent, named, written⟩ := Option.map_eq_some_iff.mp inserting
      refine ⟨sent, by rw [named]; rfl, ?_⟩
      refine sendsTo_of_text List.mem_cons_self
        (" (".toList ++ ((commaSeparated insertion.columns).toList ++ ") VALUES ".toList))
        written ?_ _ (Clear.space _)
      simp only [String.toList_append, List.append_assoc]
  | none =>
      rw [first] at inserting pending
      have other : targets.insert = none := Option.map_eq_none_iff.mp inserting
      cases second : draft.assignment with
      | some assignment =>
          rw [second] at updating
          obtain ⟨sent, named, written⟩ := Option.map_eq_some_iff.mp updating
          refine ⟨sent, by rw [other, named]; rfl, ?_⟩
          have listed : "UPDATE " ∈ writeVerbs := by decide
          refine sendsTo_of_text listed " SET ".toList written ?_ _ (Clear.space _)
          simp only [String.toList_append, List.append_assoc]
      | none =>
          rw [second] at updating pending
          have neither : targets.update = none := Option.map_eq_none_iff.mp updating
          cases third : draft.frame.delete with
          | some delete =>
              rw [third] at deleting
              obtain ⟨sent, named, written⟩ := Option.map_eq_some_iff.mp deleting
              refine ⟨sent, by rw [other, neither, named]; rfl, ?_⟩
              have listed : "DELETE FROM " ∈ writeVerbs := by decide
              refine sendsTo_of_text listed [] written ?_ _ (Draft.clear_conditions _ _ _)
              rw [String.toList_append, List.append_nil]
          | none =>
              rw [third] at pending
              cases pending

variable {Outside : Type}

/-- A write goes to the source at the call for it, and invalidates the last source. These are the
same table only where their names end alike. -/
theorem write_invalidates_last_source (setup : Setup Outside) (dialect : Dialect)
    (spelled : setup.profile = dialect.profile) (enabled : setup.caching.invalidateOnWrite = true)
    (calls : List Call) (writer : Builder)
    (made : setup.engine.query.applyAll calls = .ok writer)
    (plain : ∀ call ∈ calls, ∀ table, call.source? = some table → IsPlainName table)
    (typed : ∀ call ∈ calls, call.isRaw = false) (pending : writer.clauses.isWrite = true) :
    ∃ sent last statement, (Targets.afterAll {} calls).sent? = some sent ∧
      (Targets.afterAll {} calls).source = some last ∧ writer.statement = .ok statement ∧
      SendsTo dialect statement.sql sent ∧
      (∀ session output after,
        (setup.engine.runExecute statement).run session = (.ok output, after) →
          (setup.engine.execute writer).run session =
            (.ok output, (setup.cache.invalidate { tables := [tableLabel last] } after).2)) ∧
      (tableLabel last = tableLabel sent ↔ SameTable last sent) := by
  have start : setup.engine.query = { profile := dialect.profile, cacheable := true } := by
    rw [← spelled]
    rfl
  rw [start] at made
  obtain ⟨kind, aligned, meant⟩ := Builder.reached_draft made
  have unset := Clauses.raw_of_draft typed meant
  have opening : Draft.Aims dialect.profile {} {} := ⟨rfl, rfl, rfl, rfl⟩
  have aims := Draft.applyAll_aims opening meant
  have named : (Targets.afterAll {} calls).Each IsPlainName :=
    Targets.Each.afterAll plain (fun table none => by simp at none)
  obtain ⟨sent, target, text⟩ :=
    Draft.sends_to_target aims (by rw [Clauses.draft_isWrite]; exact pending)
  have rooted : (Targets.afterAll {} calls).Rooted := Targets.Rooted.afterAll (fun _ => rfl)
  obtain ⟨last, present⟩ := rooted.exists_source target
  have plainLast : IsPlainName last := named last (by rw [present]; exact List.mem_cons_self)
  have reading := aims.source
  rw [present, Option.map_some] at reading
  obtain ⟨source, found, same⟩ := Option.map_eq_some_iff.mp reading.symm
  have compiled : writer.statement =
      .ok (Piece.statement dialect.profile (writer.clauses.draft.pieces dialect.profile)) := by
    have whole := Builder.statementOf_eq aligned unset .whole
    rw [kind] at whole
    exact whole
  refine ⟨sent, last, _, target, present, compiled, text, ?_,
    tableLabel_eq_iff plainLast (named.sent target)⟩
  intro session output after executed
  have invalidated := Builder.writtenTables_of_source plainLast unset pending found
    (congrArg Prod.fst same)
  rw [Setup.execute_run, compiled]
  dsimp only
  rw [executed]
  dsimp only
  rw [invalidated, Setup.invalidateWritten_run, enabled]
  rfl

def strayCalls : List Call :=
  [.readFrom "app.Users", .compare .and "age" "<" (.int 18), .delete, .readFrom "orders"]

theorem stray_delete_invalidates_orders :
    ∃ writer statement, steadySetup.engine.query.applyAll strayCalls = .ok writer ∧
      writer.statement = .ok statement ∧ SendsTo .sqlite statement.sql "app.Users" ∧
      ∀ session output after,
        (steadySetup.engine.runExecute statement).run session = (.ok output, after) →
          (steadySetup.engine.execute writer).run session =
            (.ok output, (steadySetup.cache.invalidate { tables := ["orders"] } after).2) := by
  have facts : ((steadySetup.engine.query.applyAll strayCalls).map
      (fun writer => writer.clauses.isWrite)).toOption = some true := by decide +kernel
  obtain ⟨writer, made, pending⟩ := exists_of_map_ok (ok_of_toOption facts)
  have plain : ∀ call ∈ strayCalls, ∀ table, call.source? = some table → IsPlainName table := by
    simp only [strayCalls, List.forall_mem_cons, Call.source?, Option.some.injEq,
      forall_eq', List.not_mem_nil, false_implies, implies_true, and_true, reduceCtorEq,
      true_and]
    unfold IsPlainName
    decide +kernel
  obtain ⟨sent, last, statement, target, present, compiled, text, invalidates, _⟩ :=
    write_invalidates_last_source steadySetup .sqlite rfl rfl strayCalls writer made plain
      (by decide) pending
  cases target
  cases present
  have label : tableLabel "orders" = "orders" := by decide +kernel
  rw [label] at invalidates
  exact ⟨writer, statement, made, compiled, text, invalidates⟩

/-- Rows of one table are deleted, and another table is invalidated. -/
theorem stray_delete_leaves_users :
    ((steadySetup.engine.query.applyAll strayCalls).toOption.bind (fun writer =>
      writer.statement.toOption.map (fun statement =>
        (statement.sql, writer.writtenTables statement.sql)))) =
      some ("DELETE FROM \"app\".\"Users\" WHERE \"age\" < ?", ["orders"]) ∧
    tableLabel "app.Users" = "users" := by
  decide +kernel

end BoundQuery
