import BoundQuery.Proofs.Alignment
import BoundQuery.Proofs.NamedTables
import BoundQuery.Proofs.Transparency

/-!
No stale reads. Once a table has been invalidated by name, or a pending write on it has been
executed, no query that names it is answered from what was fetched before, whatever happened earlier
and whatever happens until the read.
-/

set_option autoImplicit false

namespace BoundQuery

/-- The names of two tables end alike, but for ASCII case. -/
def SameTable (first second : String) : Prop :=
  Text.equalsIgnoringCase (lastSegment first) (lastSegment second) = true

theorem lower_of_ascii {text : String} (ascii : ∀ char ∈ text.toList, char.toNat < 128) :
    Text.lower text = String.ofList (text.toList.map Char.toLower) := by
  unfold Text.lower
  rw [lowerChars_of_ascii ascii]

theorem tableLabel_eq {table : String} (plain : IsPlainName table) :
    tableLabel table = String.ofList ((lastSegment table).map Char.toLower) := by
  unfold tableLabel
  rw [lowerChars_of_ascii plain.ascii]

theorem lower_tableLabel {table : String} (plain : IsPlainName table) :
    Text.lower (tableLabel table) = tableLabel table := by
  have ascii : ∀ char ∈ (tableLabel table).toList, char.toNat < 128 := by
    rw [tableLabel_eq plain, String.toList_ofList]
    intro char member
    obtain ⟨own, listed, rfl⟩ := List.mem_map.mp member
    exact toLower_lt.mpr (plain.ascii own listed)
  rw [lower_of_ascii ascii, tableLabel_eq plain, String.toList_ofList, map_toLower_idem]

theorem lower_of_lastSegment {table name : String} (plain : IsPlainName table)
    (same : Text.equalsIgnoringCase name.toList (lastSegment table) = true) :
    Text.lower name = tableLabel table := by
  have letters : name.toList.map Char.toLower = (lastSegment table).map Char.toLower :=
    beq_iff_eq.mp same
  rw [lower_of_ascii (ascii_of_sameLetters letters plain.ascii), letters, tableLabel_eq plain]

theorem tableLabel_eq_iff {first second : String} (plain : IsPlainName first)
    (other : IsPlainName second) :
    tableLabel first = tableLabel second ↔ SameTable first second := by
  rw [tableLabel_eq plain, tableLabel_eq other, String.ofList_inj]
  exact beq_iff_eq.symm

theorem tableLabel_congr {first second : String} (plain : IsPlainName first)
    (other : IsPlainName second) (same : SameTable first second) :
    tableLabel first = tableLabel second :=
  (tableLabel_eq_iff plain other).mpr same

theorem Builder.found_in_statement {dialect : Dialect} {cacheable : Bool} {calls : List Call}
    {builder : Builder} {table : String} (plain : IsPlainName table)
    (each : ∀ call ∈ calls, call.Plain) (mentions : Mentions calls table)
    (reached : ({ profile := dialect.profile, cacheable := cacheable } : Builder).applyAll calls =
      .ok builder)
    (idle : builder.clauses.isWrite = false) {request : Request} (own : request.Plain)
    {statement : Statement} (made : builder.statementOf request = .ok statement) :
    tableLabel table ∈ referencedTables statement.sql := by
  have typed : ∀ call ∈ calls, call.isRaw = false := by
    intro call member
    have plainCall := each call member
    cases call with
    | raw sql values => exact plainCall.elim
    | _ => rfl
  obtain ⟨kind, aligned, meant⟩ := Builder.reached_draft reached
  have unset := Clauses.raw_of_draft typed meant
  have compiled := Builder.statementOf_eq aligned unset request
  rw [made, kind] at compiled
  obtain ⟨pieces, found, rfl⟩ := exists_of_map_ok compiled.symm
  have still : builder.clauses.draft.isWrite = false := by
    rw [Clauses.draft_isWrite, idle]
  exact Draft.found_in_request plain (Draft.applyAll_names mentions meant) still
    (Draft.applyAll_columns each (fun _ none => by cases none) meant) own found

namespace Call

def isWrite : Call → Bool
  | insert _ => true
  | update _ => true
  | delete => true
  | _ => false

end Call

/-- The last call for a source names the table, and no write was asked for before it. -/
def WritesTo (calls : List Call) (table : String) : Prop :=
  ∃ early call late, calls = early ++ call :: late ∧ call.source? = some table ∧
    (∀ earlier ∈ early, earlier.isWrite = false) ∧ ∀ later ∈ late, later.source? = none

theorem Builder.writtenTables_of_source {builder : Builder} {source : Source} {table : String}
    (plain : IsPlainName table) (unset : builder.clauses.raw = none)
    (pending : builder.clauses.isWrite = true) (found : builder.clauses.source = some source)
    (name : source.name = Text.trim table) (sql : String) :
    builder.writtenTables sql = [tableLabel table] := by
  obtain ⟨part, others, parts, plainParts⟩ := plain.parts
  have written : (Text.trim table).toList = writtenName none (part :: others) := by
    have whole : ['.'].intercalate (nameParts table) = Text.trimChars table.toList :=
      List.intercalate_splitOn '.'
    have bare : (nameParts table).map (around none) = nameParts table := List.map_id _
    unfold Text.trim writtenName
    rw [String.toList_ofList, ← parts, bare]
    exact whole.symm
  have first := referencedTables_from part others plainParts written
  unfold writtenTables Clauses.tableName
  rw [unset, found, pending, Option.isSome_none, if_neg Bool.false_ne_true, if_pos rfl,
    Option.map_some, name]
  unfold tableLabel
  rw [lastSegment_of_parts parts]
  exact first

theorem Builder.writtenTables_eq {dialect : Dialect} {cacheable : Bool} {calls : List Call}
    {builder : Builder} {table : String} (plain : IsPlainName table)
    (typed : ∀ call ∈ calls, call.isRaw = false) (writes : WritesTo calls table)
    (reached : ({ profile := dialect.profile, cacheable := cacheable } : Builder).applyAll calls =
      .ok builder)
    (pending : builder.clauses.isWrite = true) (sql : String) :
    builder.writtenTables sql = [tableLabel table] := by
  obtain ⟨_, _, meant⟩ := Builder.reached_draft reached
  have unset := Clauses.raw_of_draft typed meant
  obtain ⟨early, call, late, split, named, _, last⟩ := writes
  obtain ⟨source, found, name, _⟩ :=
    Draft.applyAll_readsFrom ⟨early, call, late, split, named, last⟩ meant
  exact Builder.writtenTables_of_source plain unset pending found name sql

/-! ### Steps that renew a table -/

variable {Outside : Type}

/-- A step that invalidates the table by name, or executes a pending write on it with success. -/
inductive Renews (setup : Setup Outside) (table : String) (before : Session (Site Outside)) :
    Step Outside → Prop where
  | invalidated (target : Invalidation) (name : String) (listed : name ∈ target.tables)
      (same : Text.equalsIgnoringCase name.toList (lastSegment table) = true) :
      Renews setup table before (.invalidate target)
  | written (calls : List Call) (writer : Builder) (target : String) (output : ExecOutput)
      (made : setup.engine.query.applyAll calls = .ok writer)
      (typed : ∀ call ∈ calls, call.isRaw = false) (writes : WritesTo calls target)
      (plain : IsPlainName target) (same : SameTable target table)
      (pending : writer.clauses.isWrite = true)
      (executed : ((setup.engine.execute writer).run before).1 = .ok output)
      (enabled : setup.caching.invalidateOnWrite = true) :
      Renews setup table before (.execute writer)

/-- Nothing that stood under the table is left in the store. -/
theorem Renews.spec {setup : Setup Outside} {dialect : Dialect}
    (spelled : setup.profile = dialect.profile) {table : String} (plain : IsPlainName table)
    {before : Session (Site Outside)} {step : Step Outside}
    (renews : Renews setup table before step) :
    Session.Keeps before (step.apply setup before) ∧
      ∀ kept ∈ (step.apply setup before).entries, kept.1 ∉ before.keysFor (tableLabel table) := by
  cases renews with
  | invalidated target name listed same =>
      obtain ⟨keeps, gone⟩ := setup.invalidate_spec before target
      refine ⟨keeps, ?_⟩
      intro kept member
      apply gone kept member (tableLabel table) name listed
      rw [lower_tableLabel plain, lower_of_lastSegment plain same]
  | written calls writer target output made typed writes plainTarget same pending executed
      enabled =>
      obtain ⟨keeps, gone⟩ := setup.execute_spec before writer
      refine ⟨keeps, ?_⟩
      intro kept member
      have start : setup.engine.query =
          { profile := dialect.profile, cacheable := true } := by
        rw [← spelled]
        rfl
      rw [start] at made
      cases compiled : writer.statement with
      | error error =>
          rw [Setup.execute_run, compiled] at executed
          cases executed
      | ok statement =>
          have written :=
            Builder.writtenTables_eq plainTarget typed writes made pending statement.sql
          apply gone output statement compiled executed enabled kept member (tableLabel table)
            (tableLabel target)
          · rw [written]
            exact List.mem_cons_self
          · rw [tableLabel_congr plainTarget plain same]

/-- A query that names the table, or one that goes by the same name. -/
structure Queries (setup : Setup Outside) (calls : List Call) (builder : Builder)
    (table : String) : Prop where
  made : setup.engine.query.applyAll calls = .ok builder
  plain : ∀ call ∈ calls, call.Plain
  idle : builder.clauses.isWrite = false
  mentions : ∃ mentioned, IsPlainName mentioned ∧ SameTable mentioned table ∧
    Mentions calls mentioned

theorem Queries.found {setup : Setup Outside} {dialect : Dialect}
    (spelled : setup.profile = dialect.profile) {calls : List Call} {builder : Builder}
    {table : String} (plain : IsPlainName table) (queries : Queries setup calls builder table)
    {request : Request} (own : request.Plain) {statement : Statement}
    (made : builder.statementOf request = .ok statement) :
    tableLabel table ∈ referencedTables statement.sql := by
  obtain ⟨mentioned, plainName, same, mentions⟩ := queries.mentions
  have start : setup.engine.query = { profile := dialect.profile, cacheable := true } := by
    rw [← spelled]
    rfl
  have reached := queries.made
  rw [start] at reached
  rw [← tableLabel_congr plainName plain same]
  exact Builder.found_in_statement plainName queries.plain mentions reached queries.idle own made

/-- The keys that a session and then a reading operation use, with the statements for which they use
them. -/
def Setup.keysUsed (setup : Setup Outside) (start : Session (Site Outside))
    (steps : List (Step Outside)) (builder : Builder) {Result : Type}
    (terminal : Terminal Result) : List (String × Statement) :=
  steps.flatMap (Step.uses setup) ++ setup.usesOf builder terminal (Step.run setup start steps)

/-- Whatever a reading operation receives for a query was fetched after the table was renewed, or
was put under a key of its statement by hand. -/
theorem no_stale_read (setup : Setup Outside) (dialect : Dialect)
    (spelled : setup.profile = dialect.profile) (outside : Outside) (capacity : Nat)
    (defaultTtl : Option Nat) (table : String) (plain : IsPlainName table)
    (earlier later : List (Step Outside)) (point : Step Outside)
    (renews : Renews setup table
      (Step.run setup (Setup.opening outside capacity defaultTtl) earlier) point)
    (calls : List Call) (builder : Builder) (queries : Queries setup calls builder table)
    {Result : Type} (terminal : Terminal Result)
    (identified : KeysIdentify (setup.keysUsed (Setup.opening outside capacity defaultTtl)
      (earlier ++ point :: later) builder terminal)) :
    ∀ request output, request.Plain →
      (request, .ok output) ∈ setup.engine.trace builder
        (terminal.program setup.config (Engine.tableLabel builder))
        (Step.run setup (Setup.opening outside capacity defaultTtl) (earlier ++ point :: later)) →
      ∃ statement fetched, builder.statementOf request = .ok statement ∧
        output = setup.engine.decrypt builder fetched ∧
        ((∃ index,
            (Step.run setup (Setup.opening outside capacity defaultTtl) earlier).answers.length ≤
              index ∧
            (terminal.run setup.engine builder (Step.run setup
              (Setup.opening outside capacity defaultTtl)
              (earlier ++ point :: later))).2.answers[index]? = some ⟨statement, fetched⟩) ∨
          ∃ key value, (key, value) ∈ (earlier ++ point :: later).flatMap Step.puts ∧
            (key, statement) ∈ setup.keysUsed (Setup.opening outside capacity defaultTtl)
              (earlier ++ point :: later) builder terminal ∧
            QueryOutput.ofJson? value = some fetched) := by
  let start := Setup.opening outside capacity defaultTtl
  let steps := earlier ++ point :: later
  let uses := setup.keysUsed start steps builder terminal
  let puts := steps.flatMap Step.puts
  let marked := Step.run setup start earlier
  have listed : ∀ step ∈ steps, ∀ use ∈ step.uses setup, use ∈ uses :=
    fun step member use own => List.mem_append_left _ (List.mem_flatMap.mpr ⟨step, member, own⟩)
  have given : ∀ step ∈ steps, ∀ put ∈ step.puts, put ∈ puts :=
    fun step member put own => List.mem_flatMap.mpr ⟨step, member, own⟩
  have known : ∀ asked ∈ setup.engine.trace builder
      (terminal.program setup.config (Engine.tableLabel builder)) (Step.run setup start steps),
      ∀ use, setup.engine.keyOf? builder asked.1 = some use → use ∈ uses :=
    fun asked member use found =>
      List.mem_append_right _ (List.mem_filterMap.mpr ⟨asked, member, found⟩)
  have opened : start.Sound uses puts (tableLabel table) 0 :=
    Session.Sound.opening outside capacity defaultTtl
  have before : marked.Sound uses puts (tableLabel table) 0 :=
    Session.Sound.run identified earlier
      (fun step member => listed step (List.mem_append_left _ member))
      (fun step member => given step (List.mem_append_left _ member)) start opened
  obtain ⟨keeps, gone⟩ := renews.spec spelled plain
  have renewed : (point.apply setup marked).Sound uses puts (tableLabel table)
      marked.answers.length := by
    have moved := before.remark keeps gone
    rw [keeps.answers] at moved
    exact moved
  have present : (Step.run setup start steps).Sound uses puts (tableLabel table)
      marked.answers.length := by
    rw [Step.run_append]
    exact Session.Sound.run identified later
      (fun step member =>
        listed step (List.mem_append_right _ (List.mem_cons_of_mem _ member)))
      (fun step member =>
        given step (List.mem_append_right _ (List.mem_cons_of_mem _ member))) _ renewed
  intro request output own traced
  obtain ⟨statement, fetched, made, decrypted, origin⟩ :=
    (Session.Sound.perform identified builder _ _ present known).2 request output traced
  refine ⟨statement, fetched, made, decrypted, ?_⟩
  rw [Engine.run_eq_perform]
  rcases origin with ⟨key, value, put, used, decoded⟩ | ⟨index, answered, recent⟩
  · exact .inr ⟨key, value, put, used, decoded⟩
  · exact .inl ⟨index, recent (queries.found spelled plain own made), answered⟩

def deletedCalls : List Call :=
  [.readFrom "app.Users", .compare .and "age" "<" (.int 18), .delete]

def joinedCalls : List Call :=
  [.readFromAs "orders" "o", .select ["o.id"], .join .left "users" "o.user_id" "=" "users.id",
    .cache {}]

def deletedSteps (builder writer : Builder) : List (Step Unit) :=
  [.read builder .whole, .execute writer, .read builder .whole]

theorem steady_execute {writer : Builder} {statement : Statement}
    (compiled : writer.statement = .ok statement) (session : Session (Site Unit)) :
    ((steadySetup.engine.execute writer).run session).1 = .ok {} := by
  unfold Engine.execute
  rw [compiled]
  rfl

theorem no_stale_read_after_delete :
    ∃ builder writer, steadySetup.engine.query.applyAll joinedCalls = .ok builder ∧
      steadySetup.engine.query.applyAll deletedCalls = .ok writer ∧
      ∀ output, (Request.whole, .ok output) ∈ steadySetup.engine.trace builder
          (Terminal.get.program steadySetup.config (Engine.tableLabel builder))
          (Step.run steadySetup (Setup.opening () 2 none) (deletedSteps builder writer)) →
        ∃ statement fetched index, builder.statementOf .whole = .ok statement ∧
          output = steadySetup.engine.decrypt builder fetched ∧
          (Step.run steadySetup (Setup.opening () 2 none)
            [.read builder .whole]).answers.length ≤ index ∧
          (Terminal.get.run steadySetup.engine builder
            (Step.run steadySetup (Setup.opening () 2 none)
              (deletedSteps builder writer))).2.answers[index]? = some ⟨statement, fetched⟩ := by
  have query : (steadySetup.engine.query.applyAll joinedCalls).toOption.map
      (fun builder => builder.clauses.isWrite) = some false := by decide +kernel
  have write : (steadySetup.engine.query.applyAll deletedCalls).toOption.map
      (fun writer => (writer.clauses.isWrite, writer.statement.isOk)) = some (true, true) := by
    decide +kernel
  obtain ⟨builder, made, idle⟩ := exists_of_toOption_map query
  obtain ⟨writer, built, own⟩ := exists_of_toOption_map write
  obtain ⟨pending, accepted⟩ := Prod.mk.inj own
  obtain ⟨statement, compiled⟩ := ok_of_isOk accepted
  refine ⟨builder, writer, made, built, ?_⟩
  intro output traced
  have renews : Renews steadySetup "users"
      (Step.run steadySetup (Setup.opening () 2 none) [.read builder .whole])
      (.execute writer) := by
    exact .written deletedCalls writer "app.Users" {} built (by decide)
      ⟨[], _, _, rfl, rfl, by decide, by decide⟩ (by unfold IsPlainName; decide +kernel)
      (by unfold SameTable; decide +kernel) pending (steady_execute compiled _) rfl
  have queries : Queries steadySetup joinedCalls builder "users" := by
    refine ⟨made, ?_, idle, "users", by unfold IsPlainName; decide +kernel,
      by unfold SameTable; decide +kernel, ?_⟩
    · simp only [joinedCalls, List.forall_mem_cons, Call.Plain, List.not_mem_nil,
        false_implies, implies_true, and_true, true_and]
      unfold IsPlainName
      decide +kernel
    · right
      exact ⟨.join .left "users" "o.user_id" "=" "users.id", by simp [joinedCalls], rfl⟩
  have identified : KeysIdentify (steadySetup.keysUsed (Setup.opening () 2 none)
      (deletedSteps builder writer) builder Terminal.get) := by
    apply keysIdentify_of_single
    intro use member
    have found : steadySetup.engine.keyOf? builder .whole = some use := by
      simpa [deletedSteps, Setup.keysUsed, Step.uses, Setup.usesOf, Terminal.program,
        Reading.answer, Reading.settle, Engine.trace] using member
    exact Engine.statement_of_keyOf? found
  obtain ⟨own, fetched, same, decrypted, origin⟩ :=
    no_stale_read steadySetup .sqlite rfl () 2 none "users"
        (by unfold IsPlainName; decide +kernel)
      [.read builder .whole] [.read builder .whole] (.execute writer) renews
      joinedCalls builder queries Terminal.get identified .whole output trivial traced
  rcases origin with ⟨index, later, answered⟩ | ⟨key, value, put, _⟩
  · exact ⟨own, fetched, index, same, decrypted, later, answered⟩
  · cases put

end BoundQuery
