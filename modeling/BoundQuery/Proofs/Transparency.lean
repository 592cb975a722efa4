import BoundQuery.Proofs.Provenance
import BoundQuery.Proofs.Simulation

/-!
A cache does not show. Where the executor gives every statement one answer, each reading operation
gives through the cache what it gives without one, whatever was done in the session before.
-/

set_option autoImplicit false

namespace BoundQuery

/-! ### Builders with and without a cache -/

namespace Builder

/-- All of a builder but what concerns caching. -/
def essence (builder : Builder) : Profile × Clauses × List String :=
  (builder.profile, builder.clauses, builder.encrypted)

theorem with?_essence {first second : Builder} (same : first.essence = second.essence)
    (result : Except QueryError Clauses) :
    (first.with? result).map essence = (second.with? result).map essence := by
  obtain ⟨profile, _, _, _, encrypted⟩ := first
  cases same
  cases result with
  | error error => rfl
  | ok changed => rfl

theorem cached_essence {first second : Builder} (same : first.essence = second.essence)
    (options : CacheOptions) :
    (first.cached options).map essence = (second.cached options).map essence := by
  rw [map_cached essence first options fun _ => rfl, map_cached essence second options fun _ => rfl,
    same]

theorem apply_essence {first second : Builder} (same : first.essence = second.essence)
    (call : Call)
    (inner : ∀ combinator calls, call = .group combinator calls →
      (({ profile := first.profile, cacheable := first.cacheable } : Builder).applyAll
          calls).map essence =
        (({ profile := second.profile, cacheable := second.cacheable } : Builder).applyAll
          calls).map essence) :
    (first.apply call).map essence = (second.apply call).map essence := by
  have profile : first.profile = second.profile := congrArg Prod.fst same
  have clauses : first.clauses = second.clauses := congrArg (fun parts => parts.2.1) same
  have encrypted : first.encrypted = second.encrypted := congrArg (fun parts => parts.2.2) same
  cases call with
  | group combinator calls =>
      have alike := inner combinator calls rfl
      simp only [apply, clauses]
      have results : (applyAll { profile := first.profile, cacheable := first.cacheable }
            calls).map (fun inner => second.clauses.addGroup combinator inner.clauses) =
          (applyAll { profile := second.profile, cacheable := second.cacheable }
            calls).map (fun inner => second.clauses.addGroup combinator inner.clauses) := by
        revert alike
        generalize applyAll { profile := first.profile, cacheable := first.cacheable } calls = left
        generalize applyAll { profile := second.profile, cacheable := second.cacheable } calls =
          right
        intro alike
        rcases outcomes_of_map_eq alike with ⟨error, rfl, rfl⟩ | ⟨inner, other, rfl, rfl, parts⟩
        · rfl
        · have same : inner.clauses = other.clauses :=
            congrArg (fun parts => parts.2.1) parts
          simp only [Except.map, same]
      rw [results]
      exact with?_essence same _
  | cache options => exact cached_essence same options
  | noCache => exact congrArg Except.ok same
  | encrypt fields =>
      refine congrArg Except.ok ?_
      simp only [essence, markEncrypted, profile, clauses, encrypted]
  | _ =>
      simp only [apply, profile, clauses]
      exact with?_essence same _

/-- What a program of calls makes does not depend on whether there is a cache. -/
theorem applyAll_essence {first second : Builder} (same : first.essence = second.essence)
    (calls : List Call) :
    (first.applyAll calls).map essence = (second.applyAll calls).map essence := by
  cases calls with
  | nil => exact congrArg Except.ok same
  | cons call rest =>
      have profile : first.profile = second.profile := congrArg Prod.fst same
      have own := apply_essence same call fun combinator calls group =>
        applyAll_essence (by simp only [essence, profile]) calls
      simp only [applyAll]
      rcases outcomes_of_map_eq own with
        ⟨error, left, right⟩ | ⟨next, other, left, right, alike⟩
      · rw [left, right]
      · rw [left, right]
        exact applyAll_essence alike rest
termination_by sizeOf calls
decreasing_by
  · subst group
    simp only [List.cons.sizeOf_spec, Call.group.sizeOf_spec]
    omega
  · simp only [List.cons.sizeOf_spec]
    omega

end Builder

variable {Outside : Type}

/-- The same query always gets the same answer, whatever happens in between. -/
def Executor.Steady (executor : Executor Outside)
    (answer : String → List Value → Except QueryError QueryOutput) : Prop :=
  ∀ sql bindings outside, (executor.query sql bindings outside).1 = answer sql bindings

namespace Session

/-- All that was recorded is what the executor answers. -/
def Truthful (answer : String → List Value → Except QueryError QueryOutput)
    (session : Session (Site Outside)) : Prop :=
  ∀ given ∈ session.answers,
    answer given.statement.sql given.statement.bindings = .ok given.output

end Session

/-- How a statement comes out without a cache. -/
def outcomeOf (answer : String → List Value → Except QueryError QueryOutput)
    (statement : Statement) : Except QueryError QueryOutput :=
  (answer statement.sql statement.bindings).mapError
    (fun error => error.attachStatement statement.sql statement.bindings)

/-- How a request comes out without a cache. -/
def Engine.expected {World : Type} (engine : Engine World)
    (answer : String → List Value → Except QueryError QueryOutput) (builder : Builder)
    (request : Request) : Except QueryError QueryOutput := do
  let statement ← builder.statementOf request
  (outcomeOf answer statement).map (engine.decrypt builder)

namespace Setup

variable {setup : Setup Outside}
  {answer : String → List Value → Except QueryError QueryOutput}

theorem runQuery_outcome (steady : setup.executor.Steady answer) (statement : Statement)
    (session : Session (Site Outside)) :
    ((setup.engine.runQuery statement).run session).1 = outcomeOf answer statement :=
  congrArg (Except.mapError _) (steady _ _ session.world.outside)

theorem answer_of_outcome {statement : Statement} {output : QueryOutput}
    (outcome : outcomeOf answer statement = .ok output) :
    answer statement.sql statement.bindings = .ok output := by
  unfold outcomeOf at outcome
  cases given : answer statement.sql statement.bindings with
  | error error =>
      rw [given] at outcome
      cases outcome
  | ok other =>
      rw [given] at outcome
      exact outcome

end Setup

namespace Session

variable {setup : Setup Outside}
  {answer : String → List Value → Except QueryError QueryOutput}
  {uses : List (String × Statement)} {puts : List (String × Json)} {table : String} {mark : Nat}
  {before after : Session (Site Outside)}

theorem Truthful.of_answers (truthful : before.Truthful answer)
    (same : after.answers = before.answers) : after.Truthful answer := by
  unfold Truthful
  rw [same]
  exact truthful

theorem Truthful.fetches {statement : Statement} {output : QueryOutput}
    (truthful : before.Truthful answer) (fetches : Fetches ⟨statement, output⟩ before after)
    (given : answer statement.sql statement.bindings = .ok output) : after.Truthful answer := by
  unfold Truthful
  rw [fetches.answers]
  intro other member
  rcases List.mem_append.mp member with old | new
  · exact truthful other old
  · rw [List.mem_singleton.mp new]
    exact given

/-- A statement is served with what the executor answers to it, and no other value is put under its
key. -/
theorem Truthful.serves {statement : Statement} {outcome : Except QueryError QueryOutput}
    (steady : setup.executor.Steady answer) (identified : KeysIdentify uses)
    (apart : ∀ put ∈ puts, ∀ use ∈ uses, put.1 ≠ use.1)
    (sound : before.Sound uses puts table mark) (truthful : before.Truthful answer)
    (served : Serves setup uses statement before outcome after) :
    outcome = outcomeOf answer statement ∧ after.Truthful answer := by
  have origins := (sound.serves identified served).2
  cases served with
  | @hit key entry output _ used stored decoded keeps =>
      have still : after.Truthful answer := truthful.of_answers keeps.answers
      refine ⟨?_, still⟩
      rcases origins output rfl with ⟨key, value, put, known, _⟩ | ⟨index, listed, _⟩
      · exact absurd rfl (apart (key, value) put (key, statement) known)
      · have given := still _ (List.mem_of_getElem? listed)
        unfold outcomeOf
        rw [given]
        rfl
  | refused looked asked keeps =>
      refine ⟨?_, (truthful.of_answers looked.answers).of_answers keeps.answers⟩
      rw [← asked, Setup.runQuery_outcome steady]
  | fetched looked asked fetches keeps =>
      rw [Setup.runQuery_outcome steady] at asked
      have given := Setup.answer_of_outcome asked
      have recorded := (truthful.of_answers looked.answers).fetches fetches given
      exact ⟨asked.symm, recorded.of_answers keeps.answers⟩
  | stored used looked asked fetches stores =>
      rw [Setup.runQuery_outcome steady] at asked
      have given := Setup.answer_of_outcome asked
      have recorded := (truthful.of_answers looked.answers).fetches fetches given
      exact ⟨asked.symm, recorded.of_answers stores.answers⟩

theorem Truthful.servesAll (steady : setup.executor.Steady answer)
    (identified : KeysIdentify uses) (apart : ∀ put ∈ puts, ∀ use ∈ uses, put.1 ≠ use.1)
    (served : ServesAll setup uses before after) :
    before.Sound uses puts table mark → before.Truthful answer → after.Truthful answer := by
  induction served with
  | refl => exact fun _ truthful => truthful
  | step first rest ih =>
      intro sound truthful
      exact ih (sound.serves identified first).1
        (truthful.serves steady identified apart sound first).2

theorem Truthful.run (steady : setup.executor.Steady answer)
    (identified : KeysIdentify uses) (apart : ∀ put ∈ puts, ∀ use ∈ uses, put.1 ≠ use.1)
    (steps : List (Step Outside)) (listed : ∀ step ∈ steps, ∀ use ∈ step.uses setup, use ∈ uses)
    (given : ∀ step ∈ steps, ∀ put ∈ step.puts, put ∈ puts) :
    ∀ before : Session (Site Outside), before.Sound uses puts table mark →
      before.Truthful answer → (Step.run setup before steps).Truthful answer := by
  induction steps with
  | nil => exact fun _ _ truthful => truthful
  | cons step rest ih =>
      intro before sound truthful
      have own := listed step List.mem_cons_self
      have next := sound.step identified step own (given step List.mem_cons_self)
      have still : (step.apply setup before).Truthful answer := by
        rcases Step.apply_cases setup before step own with keeps | served | ⟨key, value, _, put⟩
        · exact truthful.of_answers keeps.answers
        · exact Truthful.servesAll steady identified apart served sound truthful
        · exact truthful.of_answers put.answers
      exact ih (fun other member => listed other (List.mem_cons_of_mem _ member))
        (fun other member => given other (List.mem_cons_of_mem _ member)) _ next still

/-- A program is answered through the cache as if there were none. -/
theorem Truthful.perform {Result : Type} (steady : setup.executor.Steady answer)
    (identified : KeysIdentify uses) (apart : ∀ put ∈ puts, ∀ use ∈ uses, put.1 ≠ use.1)
    (builder : Builder) (program : Reading Result) :
    ∀ before : Session (Site Outside), before.Sound uses puts table mark →
      before.Truthful answer →
      (∀ asked ∈ setup.engine.trace builder program before, ∀ use,
        setup.engine.keyOf? builder asked.1 = some use → use ∈ uses) →
      (setup.engine.perform builder program before).1 =
        program.resolve (setup.engine.expected answer builder) := by
  induction program with
  | done result => exact fun _ _ _ _ => rfl
  | ask request next ih =>
      intro before sound truthful listed
      let reply := (setup.engine.read builder request).run before
      have run : (setup.engine.perform builder (.ask request next) before).1 =
          (setup.engine.perform builder (next reply.1) reply.2).1 := rfl
      have known := listed (request, reply.1) List.mem_cons_self
      have others : ∀ asked ∈ setup.engine.trace builder (next reply.1) reply.2, ∀ use,
          setup.engine.keyOf? builder asked.1 = some use → use ∈ uses :=
        fun asked member => listed asked (List.mem_cons_of_mem _ member)
      rw [run, Reading.resolve]
      rcases setup.read_serves before builder request known with ⟨error, made, refused⟩ |
        ⟨statement, outcome, made, served, replied⟩
      · have first : reply.1 = setup.engine.expected answer builder request := by
          unfold Engine.expected
          rw [made]
          exact congrArg Prod.fst refused
        have still : reply.2 = before := congrArg Prod.snd refused
        rw [← first]
        exact ih reply.1 reply.2 (by rw [still]; exact sound) (by rw [still]; exact truthful)
          others
      · obtain ⟨answered, recorded⟩ :=
          truthful.serves steady identified apart sound served
        have first : reply.1 = setup.engine.expected answer builder request := by
          unfold Engine.expected
          rw [made]
          change reply.1 = (outcomeOf answer statement).map _
          rw [← answered]
          exact replied
        rw [← first]
        exact ih reply.1 reply.2 (sound.serves identified served).1 recorded others

end Session

/-! ### The engine without a cache -/

theorem Builder.statementOf_essence {first second : Builder}
    (same : first.essence = second.essence) (request : Request) :
    first.statementOf request = second.statementOf request := by
  obtain ⟨profile, _, clauses, _, encrypted⟩ := first
  obtain ⟨_, _, _, _, _⟩ := second
  cases same
  cases request with
  | _ => rfl

namespace Setup

variable {setup : Setup Outside}
  {answer : String → List Value → Except QueryError QueryOutput}

theorem expected_essence {first second : Builder} (same : first.essence = second.essence)
    (request : Request) :
    setup.engine.expected answer first request =
      setup.plainEngine.expected answer second request := by
  have decrypted : setup.engine.decrypt first = setup.plainEngine.decrypt second := by
    funext output
    unfold Engine.decrypt
    rw [show first.encrypted = second.encrypted from congrArg (fun parts => parts.2.2) same]
    rfl
  unfold Engine.expected
  rw [Builder.statementOf_essence same, decrypted]

theorem plain_read (steady : setup.executor.Steady answer) (builder : Builder)
    (request : Request) (session : Session (Site Outside)) :
    ((setup.plainEngine.read builder request).run session).1 =
      setup.plainEngine.expected answer builder request := by
  unfold Engine.read Engine.expected
  cases made : builder.statementOf request with
  | error error => rfl
  | ok statement =>
      have run : ((do
            let output ← setup.plainEngine.runQuery statement
            pure (setup.plainEngine.decrypt builder output) :
              Action (Site Outside) QueryOutput).run session).1 =
          ((setup.plainEngine.runQuery statement).run session).1.map
            (setup.plainEngine.decrypt builder) := congrArg Prod.fst (Action.run_bind_pure _)
      have asked : ((setup.plainEngine.runQuery statement).run session).1 =
          outcomeOf answer statement := runQuery_outcome steady statement session
      rw [asked] at run
      exact run

theorem plain_perform (steady : setup.executor.Steady answer) (builder : Builder)
    {Result : Type} (program : Reading Result) :
    ∀ session : Session (Site Outside), (setup.plainEngine.perform builder program session).1 =
      program.resolve (setup.plainEngine.expected answer builder) := by
  induction program with
  | done result => exact fun _ => rfl
  | ask request next ih =>
      intro session
      let reply := (setup.plainEngine.read builder request).run session
      have run : (setup.plainEngine.perform builder (.ask request next) session).1 =
          (setup.plainEngine.perform builder (next reply.1) reply.2).1 := rfl
      have first : reply.1 = setup.plainEngine.expected answer builder request :=
        plain_read steady builder request session
      rw [run, Reading.resolve, ← first]
      exact ih reply.1 reply.2

/-- The keys that a reading operation uses, with the statements for which it uses them. -/
def usesOf {Result : Type} (setup : Setup Outside) (builder : Builder)
    (terminal : Terminal Result) (session : Session (Site Outside)) :
    List (String × Statement) :=
  (setup.engine.trace builder (terminal.program setup.config (Engine.tableLabel builder))
    session).filterMap (fun asked => setup.engine.keyOf? builder asked.1)

/-- A session at its beginning, with nothing stored yet. -/
def opening (outside : Outside) (capacity : Nat) (defaultTtl : Option Nat) :
    Session (Site Outside) :=
  { world := { outside := outside, store := { capacity := capacity, defaultTtl := defaultTtl } } }

end Setup

theorem Session.Sound.opening {uses : List (String × Statement)} {puts : List (String × Json)}
    {table : String} (outside : Outside) (capacity : Nat) (defaultTtl : Option Nat) :
    (Setup.opening outside capacity defaultTtl).Sound uses puts table 0 :=
  ⟨Nat.zero_le _, fun kept none => by cases none⟩

/-- After any history, each reading operation gives through the cache what it gives to the same
calls on the same engine without one, errors and decrypted fields included. -/
theorem cache_is_transparent (setup : Setup Outside)
    (answer : String → List Value → Except QueryError QueryOutput)
    (steady : setup.executor.Steady answer) (outside : Outside) (capacity : Nat)
    (defaultTtl : Option Nat) (steps : List (Step Outside)) (calls : List Call)
    (builder : Builder) (made : setup.engine.query.applyAll calls = .ok builder)
    {Result : Type} (terminal : Terminal Result)
    (identified : KeysIdentify (steps.flatMap (Step.uses setup) ++
      setup.usesOf builder terminal
        (Step.run setup (Setup.opening outside capacity defaultTtl) steps)))
    (apart : ∀ put ∈ steps.flatMap Step.puts, ∀ use ∈ steps.flatMap (Step.uses setup) ++
      setup.usesOf builder terminal
        (Step.run setup (Setup.opening outside capacity defaultTtl) steps), put.1 ≠ use.1) :
    ∃ plain, setup.plainEngine.query.applyAll calls = .ok plain ∧
      ∀ session : Session (Site Outside),
        (terminal.run setup.engine builder
            (Step.run setup (Setup.opening outside capacity defaultTtl) steps)).1 =
          (terminal.run setup.plainEngine plain session).1 := by
  let start := Setup.opening outside capacity defaultTtl
  let uses := steps.flatMap (Step.uses setup) ++
    setup.usesOf builder terminal (Step.run setup start steps)
  have alike : (setup.engine.query.applyAll calls).map Builder.essence =
      (setup.plainEngine.query.applyAll calls).map Builder.essence := by
    apply Builder.applyAll_essence
    rfl
  rw [made] at alike
  obtain ⟨plain, reached, twin⟩ := exists_of_map_ok alike.symm
  have same : builder.essence = plain.essence := twin.symm
  refine ⟨plain, reached, ?_⟩
  intro session
  have listed : ∀ step ∈ steps, ∀ use ∈ step.uses setup, use ∈ uses :=
    fun step member use own =>
      List.mem_append_left _ (List.mem_flatMap.mpr ⟨step, member, own⟩)
  have given : ∀ step ∈ steps, ∀ put ∈ step.puts, put ∈ steps.flatMap Step.puts :=
    fun step member put own => List.mem_flatMap.mpr ⟨step, member, own⟩
  have known : ∀ asked ∈ setup.engine.trace builder
      (terminal.program setup.config (Engine.tableLabel builder))
      (Step.run setup start steps), ∀ use,
        setup.engine.keyOf? builder asked.1 = some use → use ∈ uses :=
    fun asked member use found =>
      List.mem_append_right _ (List.mem_filterMap.mpr ⟨asked, member, found⟩)
  have opened : start.Sound uses (steps.flatMap Step.puts) "" 0 :=
    Session.Sound.opening outside capacity defaultTtl
  have honest : start.Truthful answer := fun _ none => by cases none
  have sound := Session.Sound.run identified steps listed given start opened
  have truthful := Session.Truthful.run steady identified apart steps listed given start
    opened honest
  have label : Engine.tableLabel builder = Engine.tableLabel plain := by
    unfold Engine.tableLabel
    rw [show builder.clauses = plain.clauses from congrArg (fun parts => parts.2.1) same]
  have expected : setup.engine.expected answer builder =
      setup.plainEngine.expected answer plain :=
    funext (Setup.expected_essence same)
  rw [Engine.run_eq_perform, Engine.run_eq_perform, Setup.plain_perform steady plain,
    ← expected, ← label]
  exact Session.Truthful.perform steady identified apart builder _ _ sound truthful known

theorem Engine.statement_of_keyOf? {World : Type} {engine : Engine World} {builder : Builder}
    {request : Request} {use : String × Statement}
    (found : engine.keyOf? builder request = some use) :
    builder.statementOf request = .ok use.2 := by
  unfold keyOf? at found
  split at found
  · rename_i cache statement _ made
    dsimp only at found
    rw [made]
    split at found
    · cases found
      rfl
    · cases found
  · cases found

theorem ResultCache.statement_of_warmKey? {World : Type} {cache : ResultCache World}
    {builder : Builder} {use : String × Statement}
    (found : cache.warmKey? builder = some use) : builder.statement = .ok use.2 := by
  unfold warmKey? at found
  split at found
  · rename_i statement made
    cases found
    exact made
  · cases found

theorem keysIdentify_of_single {uses : List (String × Statement)} {builder : Builder}
    (single : ∀ use ∈ uses, builder.statement = .ok use.2) : KeysIdentify uses := by
  intro first one second other _
  exact Except.ok.inj ((single first one).symm.trans (single second other))

def steadySetup : Setup Unit :=
  { clock := fun _ => 0
    executor :=
      { query := fun _ _ outside =>
          (.ok { rows := [[("name", .string "Ada")]], rowCount := 1 }, outside)
        execute := fun _ _ outside => (.ok {}, outside) }
    profile := Dialect.sqlite.profile }

def adultsCalls : List Call :=
  [.readFrom "users", .compare .and "age" ">=" (.int 18),
    .cache { key := some "adults" }, .encrypt ["name"]]

def adultsSteps (builder : Builder) : List (Step Unit) :=
  [.read builder .whole, .warmup [builder], .invalidate { tables := ["users"] },
    .read builder .whole]

theorem cache_is_transparent_for_adults :
    ∃ builder, steadySetup.engine.query.applyAll adultsCalls = .ok builder ∧
      ∃ plain, steadySetup.plainEngine.query.applyAll adultsCalls = .ok plain ∧
        ∀ session : Session (Site Unit),
          (Terminal.get.run steadySetup.engine builder
              (Step.run steadySetup (Setup.opening () 2 none) (adultsSteps builder))).1 =
            (Terminal.get.run steadySetup.plainEngine plain session).1 := by
  have accepted : (steadySetup.engine.query.applyAll adultsCalls).isOk := by
    decide +kernel
  obtain ⟨builder, made⟩ := ok_of_isOk accepted
  refine ⟨builder, made, ?_⟩
  refine cache_is_transparent steadySetup
    (fun _ _ => .ok { rows := [[("name", .string "Ada")]], rowCount := 1 })
    (fun _ _ _ => rfl) () 2 none (adultsSteps builder) adultsCalls builder made Terminal.get
    ?_ ?_
  · apply keysIdentify_of_single
    intro use member
    have cases : steadySetup.engine.keyOf? builder .whole = some use ∨
        steadySetup.cache.warmKey? builder = some use ∨
          steadySetup.engine.keyOf? builder .whole = some use := by
      simpa [adultsSteps, Step.uses, Setup.usesOf, Terminal.program, Reading.answer,
        Reading.settle, Engine.trace] using member
    rcases cases with read | warmed | read
    · exact Engine.statement_of_keyOf? read
    · exact ResultCache.statement_of_warmKey? warmed
    · exact Engine.statement_of_keyOf? read
  · intro put none
    cases none

end BoundQuery
