import BoundQuery.Proofs.Chunks
import BoundQuery.Proofs.ReadThrough

/-!
Reading a raw statement page by page. Nothing of the window of a page enters the caller's text, so
that every page is the whole result. Which of the walks stop after it is a matter of its length.
-/

set_option autoImplicit false

namespace BoundQuery

/-- How many pages a walk reads that meets the same page wherever it looks: one if the page counts
as the last, and else as many as there are offsets. -/
structure Rounds (last : Prop) (offset size times : Nat) : Prop where
  once : last → times = 1
  onward : ¬last → greatestWord < offset + times * size

section Rounds

variable {last : Prop} {offset size times : Nat}

theorem Rounds.single (ends : last ∨ greatestWord < offset + size) : Rounds last offset size 1 where
  once := fun _ => rfl
  onward := by
    intro further
    rw [Nat.one_mul]
    exact ends.resolve_left further

theorem Rounds.succ (further : ¬last) (rest : Rounds last (offset + size) size times) :
    Rounds last offset size (times + 1) where
  once := fun ends => absurd ends further
  onward := by
    intro _
    have beyond := rest.onward further
    rw [Nat.succ_mul]
    omega

end Rounds

namespace Engine

section Again

variable {World : Type}

/-- Whatever page is read, it brings these rows; the sessions are told apart by the number of pages
that were read before them. -/
def Repeats (engine : Engine World) (builder : Builder) (size : Nat) (rows : List Row)
    (reached : Nat → Session World → Prop) : Prop :=
  ∀ pages session, reached pages session → ∀ offset, ∃ after,
    (engine.fetchPage builder offset size).run session = (.ok rows, after) ∧
      reached (pages + 1) after

variable {engine : Engine World} {builder : Builder} {size : Nat} {rows : List Row}
variable {reached : Nat → Session World → Prop} {Notes : Type}

theorem chunkFrom_repeats (again : engine.Repeats builder size rows reached) (positive : 1 ≤ size)
    {read : List Row → StateM Notes (Except QueryError Flow)}
    (proceeds : ∀ slice notes, (read slice notes).1 = .ok .proceed) (offset : Nat) (notes : Notes)
    {pages : Nat} {session : Session World} (here : reached pages session) :
    ∃ times result after,
      engine.chunkFrom builder size read offset notes session =
        ((result, noted read notes (if rows.isEmpty then [] else List.replicate times rows)),
          after) ∧
      reached (pages + times) after ∧ Rounds (rows.length < size) offset size times ∧
      (rows.length < size → result = .ok ()) := by
  induction remaining : greatestWord - offset using Nat.strongRecOn generalizing
    offset notes pages session with
  | _ left ih =>
      obtain ⟨after, fetched, moved⟩ := again pages session here offset
      have run := engine.chunkFrom_eq builder size offset session read notes
      simp only [fetched, proceeds, reduceCtorEq, decide_false, Bool.false_or,
        decide_eq_true_eq] at run
      by_cases empty : rows.isEmpty = true
      · have short : rows.length < size := by
          rw [List.isEmpty_iff.mp empty]
          exact positive
        simp only [if_pos empty] at run ⊢
        exact ⟨1, .ok (), after, run, moved, Rounds.single (.inl short), fun _ => rfl⟩
      simp only [if_neg empty] at run ih ⊢
      by_cases short : rows.length < size
      · rw [if_pos short] at run
        exact ⟨1, .ok (), after, run, moved, Rounds.single (.inl short), fun _ => rfl⟩
      rw [if_neg short] at run
      by_cases within : offset + size ≤ greatestWord
      · obtain ⟨times, result, final, walked, there, rounds, ended⟩ :=
          ih (greatestWord - (offset + size)) (by omega) (offset + size) (read rows notes).2 moved
            rfl
        rw [if_pos ⟨positive, within⟩, walked] at run
        refine ⟨times + 1, result, final, run, ?_, rounds.succ short, ended⟩
        rw [← Nat.add_assoc, Nat.add_right_comm]
        exact there
      · rw [if_neg (fun both => within both.2)] at run
        exact ⟨1, _, after, run, moved, Rounds.single (.inr (Nat.lt_of_not_le within)),
          fun less => absurd less short⟩

theorem lazyFrom_repeats (again : engine.Repeats builder size rows reached) (positive : 1 ≤ size)
    (offset : Nat) {pages : Nat} {session : Session World} (here : reached pages session) :
    ∃ times after,
      engine.lazyFrom builder size offset none session =
        (((List.replicate times rows).flatten, none), after) ∧
      reached (pages + times) after ∧ Rounds (rows.length ≠ size) offset size times := by
  induction remaining : greatestWord - offset using Nat.strongRecOn generalizing
    offset pages session with
  | _ left ih =>
      obtain ⟨after, fetched, moved⟩ := again pages session here offset
      have run := engine.lazyFrom_eq builder size offset session
      simp only [fetched] at run
      have single : (List.replicate 1 rows).flatten = rows := List.append_nil rows
      by_cases full : rows.length = size
      · by_cases within : offset + size ≤ greatestWord
        · obtain ⟨times, final, walked, there, rounds⟩ :=
            ih (greatestWord - (offset + size)) (by omega) (offset + size) moved rfl
          rw [if_pos ⟨full, positive, within⟩, walked] at run
          refine ⟨times + 1, final, run, ?_, rounds.succ (fun differs => differs full)⟩
          rw [← Nat.add_assoc, Nat.add_right_comm]
          exact there
        · rw [if_neg (fun all => within all.2.2)] at run
          refine ⟨1, after, ?_, moved, Rounds.single (.inr (Nat.lt_of_not_le within))⟩
          rw [run, single]
      · rw [if_neg (fun all => full all.1)] at run
        refine ⟨1, after, ?_, moved, Rounds.single (.inl full)⟩
        rw [run, single]

end Again

end Engine

/-! ### The pages of a raw statement -/

/-- The same rows for the statement whenever it is sent. -/
def Executor.Repeats {Outside : Type} (executor : Executor Outside) (statement : Statement)
    (rows : List Row) : Prop :=
  ∀ outside, ∃ output,
    (executor.query statement.sql statement.bindings outside).1 = .ok output ∧ output.rows = rows

variable {Outside : Type}

namespace Session

/-- What the store has under the keys is these rows, so far as it can be read. -/
def Holds (session : Session (Site Outside)) (uses : List (String × Statement))
    (rows : List Row) : Prop :=
  ∀ use ∈ uses, ∀ entry, (use.1, entry) ∈ session.entries →
    ∀ output, QueryOutput.ofJson? entry.value = some output → output.rows = rows

/-- For so many pages the executor answers this statement only, for each page at most once, and
exactly once where there is no key to keep the answer under. -/
def Consults (uses : List (String × Statement)) (statement : Statement) (pages : Nat)
    (before after : Session (Site Outside)) : Prop :=
  ∃ log, after.answers = before.answers ++ log ∧ (∀ answer ∈ log, answer.statement = statement) ∧
    log.length ≤ pages ∧ (uses = [] → log.length = pages)

variable {setup : Setup Outside} {uses : List (String × Statement)} {statement : Statement}
variable {rows : List Row} {start before middle after : Session (Site Outside)}

theorem Holds.keeps (held : before.Holds uses rows) (keeps : Keeps before after) :
    after.Holds uses rows :=
  fun use listed entry member => held use listed entry (keeps.entries _ member)

theorem Holds.fetches {answer : Answer} (held : before.Holds uses rows)
    (fetches : Fetches answer before after) : after.Holds uses rows := by
  unfold Holds entries
  rw [fetches.store]
  exact held

theorem Holds.stores {key : String} {answer : Answer} (held : before.Holds uses rows)
    (own : answer.output.rows = rows) (stores : Stores key answer before after) :
    after.Holds uses rows := by
  intro use listed entry member output decoded
  rcases stores.entries _ member with old | ⟨_, value⟩
  · exact held use listed entry old output decoded
  · change entry.value = _ at value
    rw [value, QueryOutput.ofJson?_toJson] at decoded
    rw [← Option.some.inj decoded]
    exact own

theorem Consults.refl : Consults uses statement 0 start start :=
  ⟨[], (List.append_nil _).symm, fun _ none => (List.not_mem_nil none).elim, Nat.le_refl 0,
    fun _ => rfl⟩

theorem Consults.trans {first second : Nat} (one : Consults uses statement first start middle)
    (two : Consults uses statement second middle after) :
    Consults uses statement (first + second) start after := by
  obtain ⟨log, grown, own, most, exactly⟩ := one
  obtain ⟨rest, further, others, bound, counted⟩ := two
  refine ⟨log ++ rest, ?_, ?_, ?_, ?_⟩
  · rw [further, grown, List.append_assoc]
  · exact List.forall_mem_append.mpr ⟨own, others⟩
  · rw [List.length_append]
    exact Nat.add_le_add most bound
  · intro keyless
    rw [List.length_append, exactly keyless, counted keyless]

theorem Consults.saved (used : uses ≠ []) (answers : after.answers = before.answers) :
    Consults uses statement 1 before after :=
  ⟨[], by rw [answers, List.append_nil], fun _ none => (List.not_mem_nil none).elim,
    Nat.zero_le 1, fun keyless => absurd keyless used⟩

theorem Consults.answered {output : QueryOutput}
    (answers : after.answers = before.answers ++ [⟨statement, output⟩]) :
    Consults uses statement 1 before after :=
  ⟨[⟨statement, output⟩], answers, List.forall_mem_singleton.mpr rfl, Nat.le_refl 1, fun _ => rfl⟩

theorem runQuery_repeats (repeats : setup.executor.Repeats statement rows)
    (session : Session (Site Outside)) :
    ∃ output, ((setup.engine.runQuery statement).run session).1 = .ok output ∧
      output.rows = rows := by
  obtain ⟨output, given, own⟩ := repeats session.world.outside
  exact ⟨output, congrArg (Except.mapError _) given, own⟩

/-- However a statement is served, it is with its rows. -/
theorem Holds.serves {outcome : Except QueryError QueryOutput}
    (repeats : setup.executor.Repeats statement rows) (held : before.Holds uses rows)
    (served : Serves setup uses statement before outcome after) :
    ∃ output, outcome = .ok output ∧ output.rows = rows ∧ after.Holds uses rows ∧
      Consults uses statement 1 before after := by
  cases served with
  | @hit key entry output _ used stored decoded keeps =>
      exact ⟨output, rfl, held _ used entry stored output decoded, held.keeps keeps,
        Consults.saved (List.ne_nil_of_mem used) keeps.answers⟩
  | @refused error middle _ looked asked keeps =>
      obtain ⟨output, given, _⟩ := runQuery_repeats repeats middle
      rw [asked] at given
      cases given
  | @fetched output middle answered _ looked asked fetches keeps =>
      obtain ⟨other, given, own⟩ := runQuery_repeats repeats middle
      rw [asked] at given
      cases given
      refine ⟨output, rfl, own, ((held.keeps looked).fetches fetches).keeps keeps, ?_⟩
      apply Consults.answered
      rw [keeps.answers, fetches.answers, looked.answers]
  | @stored key output middle answered _ used looked asked fetches stores =>
      obtain ⟨other, given, own⟩ := runQuery_repeats repeats middle
      rw [asked] at given
      cases given
      refine ⟨output, rfl, own, ((held.keeps looked).fetches fetches).stores own stores, ?_⟩
      apply Consults.answered
      rw [stores.answers, fetches.answers, looked.answers]

end Session

theorem Setup.either_read_serves (setup : Setup Outside) {engine : Engine (Site Outside)}
    (own : engine = setup.engine ∨ engine = setup.plainEngine) {builder : Builder}
    {request : Request} {statement : Statement} (made : builder.statementOf request = .ok statement)
    (session : Session (Site Outside)) :
    ∃ outcome,
      Session.Serves setup (engine.keyOf? builder request).toList statement session outcome
        ((engine.read builder request).run session).2 ∧
      ((engine.read builder request).run session).1 = outcome.map (engine.decrypt builder) := by
  rcases own with rfl | rfl
  · rcases setup.read_serves session builder request (fun use found => Option.mem_toList.mpr found)
      with ⟨error, refused, _⟩ | ⟨other, outcome, same, served, replied⟩
    · rw [made] at refused
      cases refused
    · rw [made] at same
      cases same
      exact ⟨outcome, served, replied⟩
  · have run : (setup.plainEngine.read builder request).run session =
        (((setup.engine.runQuery statement).run session).1.map (setup.plainEngine.decrypt builder),
          ((setup.engine.runQuery statement).run session).2) := by
      have direct : setup.plainEngine.read builder request =
          (do let output ← setup.engine.runQuery statement
              pure (setup.plainEngine.decrypt builder output)) := by
        unfold Engine.read
        rw [made]
        rfl
      rw [direct]
      exact Action.run_bind_pure _
    rw [run]
    exact ⟨_, setup.runQuery_serves session, rfl⟩

namespace Engine

variable {World : Type} (engine : Engine World) (builder : Builder)

theorem rows_of_decrypt (output : QueryOutput) :
    (engine.decrypt builder output).rows =
      (engine.decrypt builder { rows := output.rows }).rows := by
  unfold decrypt
  cases engine.decryptor with
  | none => rfl
  | some decryptor => rfl

end Engine

section Raw

variable {builder : Builder} {raw : RawStatement}

/-- The window does not get into the statement. -/
theorem Builder.page_of_raw (pending : builder.clauses.raw = some raw) (offset size : Nat) :
    builder.statementOf (.page offset size) = .ok (raw.statement builder.clauses.bindings) := by
  unfold statementOf Clauses.compile
  dsimp only
  rw [pending]
  rfl

theorem Engine.keyOf?_page_of_raw {World : Type} (engine : Engine World)
    (pending : builder.clauses.raw = some raw) (offset size other : Nat) :
    engine.keyOf? builder (.page offset size) = engine.keyOf? builder (.page other size) := by
  unfold keyOf?
  rw [Builder.page_of_raw pending, Builder.page_of_raw pending]
  rfl

theorem Setup.raw_repeats (setup : Setup Outside) {engine : Engine (Site Outside)}
    (own : engine = setup.engine ∨ engine = setup.plainEngine)
    (pending : builder.clauses.raw = some raw) (size : Nat) {rows : List Row}
    (repeats : setup.executor.Repeats (raw.statement builder.clauses.bindings) rows)
    (start : Session (Site Outside)) :
    engine.Repeats builder size (engine.decrypt builder { rows := rows }).rows
      (fun pages session =>
        session.Holds (engine.keyOf? builder (.page 0 size)).toList rows ∧
        start.Consults (engine.keyOf? builder (.page 0 size)).toList
          (raw.statement builder.clauses.bindings) pages session) := by
  intro pages session here offset
  obtain ⟨held, consulted⟩ := here
  obtain ⟨outcome, served, replied⟩ :=
    setup.either_read_serves own (Builder.page_of_raw pending offset size) session
  rw [engine.keyOf?_page_of_raw pending offset size 0] at served
  obtain ⟨output, answered, given, still, further⟩ := held.serves repeats served
  refine ⟨((engine.read builder (.page offset size)).run session).2, ?_, still,
    consulted.trans further⟩
  rw [engine.fetchPage_eq_read, Action.run_map, replied, answered]
  simp only [Except.map, engine.rows_of_decrypt builder output, given]

end Raw

/-- Chunks of a raw statement come to an end after one page if the whole result is shorter than a
page, and a row-by-row reading if it is not exactly as long as one; then each row is delivered once.
Otherwise the same result is delivered again for as long as there are offsets. -/
theorem raw_pages_repeat (setup : Setup Outside) (engine : Engine (Site Outside))
    (own : engine = setup.engine ∨ engine = setup.plainEngine) (builder : Builder)
    (raw : RawStatement) (pending : builder.clauses.raw = some raw) (size : Nat)
    (positive : 1 ≤ size) (rows : List Row)
    (repeats : setup.executor.Repeats (raw.statement builder.clauses.bindings) rows)
    (session : Session (Site Outside))
    (held : session.Holds (engine.keyOf? builder (.page 0 size)).toList rows) :
    (∀ (Notes : Type) (read : List Row → StateM Notes (Except QueryError Flow)) (notes : Notes),
      (∀ slice notes, (read slice notes).1 = .ok .proceed) →
        ∃ times result after,
          engine.chunk builder size read notes session =
            ((result, noted read notes
              (if rows.isEmpty then []
              else List.replicate times (engine.decrypt builder { rows := rows }).rows)), after) ∧
          session.Consults (engine.keyOf? builder (.page 0 size)).toList
            (raw.statement builder.clauses.bindings) times after ∧
          Rounds (rows.length < size) 0 size times ∧ (rows.length < size → result = .ok ())) ∧
      ∃ times after,
        (engine.lazyRows builder size none).run session =
          (.ok ((List.replicate times (engine.decrypt builder { rows := rows }).rows).flatten,
            none), after) ∧
        session.Consults (engine.keyOf? builder (.page 0 size)).toList
          (raw.statement builder.clauses.bindings) times after ∧
        Rounds (rows.length ≠ size) 0 size times := by
  have again := setup.raw_repeats own pending size repeats session
  have length : (engine.decrypt builder { rows := rows }).rows.length = rows.length :=
    engine.length_decrypt builder _
  have empty : (engine.decrypt builder { rows := rows }).rows.isEmpty = rows.isEmpty := by
    rw [Bool.eq_iff_iff, List.isEmpty_iff_length_eq_zero, List.isEmpty_iff_length_eq_zero, length]
  constructor
  · intro Notes read notes proceeds
    obtain ⟨times, result, after, run, ⟨_, consulted⟩, rounds, ended⟩ :=
      Engine.chunkFrom_repeats again positive proceeds 0 notes ⟨held, Session.Consults.refl⟩
    rw [length] at rounds ended
    rw [empty] at run
    rw [Nat.zero_add] at consulted
    rw [engine.chunk_of_positive builder positive]
    exact ⟨times, result, after, run, consulted, rounds, ended⟩
  · obtain ⟨times, after, run, ⟨_, consulted⟩, rounds⟩ :=
      Engine.lazyFrom_repeats again positive 0 ⟨held, Session.Consults.refl⟩
    rw [length] at rounds
    rw [Nat.zero_add] at consulted
    rw [engine.lazyRows_run builder positive, run]
    exact ⟨times, after, rfl, consulted, rounds⟩

def userPair : List Row :=
  [[("id", .number (.int 1))], [("id", .number (.int 2))]]

def pairSetup : Setup Unit :=
  { clock := fun _ => 0
    executor :=
      { query := fun _ _ outside => (.ok { rows := userPair }, outside)
        execute := fun _ _ outside => (.ok {}, outside) }
    profile := Dialect.sqlite.profile }

theorem pair_repeats (statement : Statement) :
    pairSetup.executor.Repeats statement userPair :=
  fun _ => ⟨_, rfl, rfl⟩

def rawUsers (kept : Bool) : Builder :=
  { profile := Dialect.sqlite.profile
    cacheable := kept
    clauses := ({} : Clauses).withRaw "SELECT id FROM users" []
    directive := { enabled := kept } }

def collect (slice : List Row) : StateM (List Row) (Except QueryError Flow) :=
  fun notes => (.ok .proceed, notes ++ slice)

theorem noted_collect (slices : List (List Row)) (notes : List Row) :
    noted collect notes slices = notes ++ slices.flatten := by
  induction slices generalizing notes with
  | nil => exact (List.append_nil notes).symm
  | cons slice rest ih =>
      refine (ih (notes ++ slice)).trans ?_
      rw [List.append_assoc, List.flatten_cons]

theorem raw_pages_of_three_end :
    pairSetup.engine.query.applyAll [.raw "SELECT id FROM users" [], .cache {}] =
        .ok (rawUsers true) ∧
      (pairSetup.engine.chunk (rawUsers true) 3 collect [] (Setup.opening () 2 none)).1 =
        (.ok (), userPair) ∧
      ((pairSetup.engine.lazyRows (rawUsers true) 3 none).run (Setup.opening () 2 none)).1 =
        .ok (userPair, none) := by
  obtain ⟨chunks, times, after, run, _, rounds⟩ := raw_pages_repeat pairSetup pairSetup.engine
    (.inl rfl) (rawUsers true) ⟨"SELECT id FROM users", {}⟩ rfl 3 (by decide) userPair
    (pair_repeats _) (Setup.opening () 2 none) (fun _ _ _ none => by cases none)
  obtain ⟨pages, result, final, walked, _, once, ended⟩ :=
    chunks (List Row) collect [] (fun _ _ => rfl)
  rw [run, walked, once.once (by decide), rounds.once (by decide), ended (by decide)]
  exact ⟨rfl, rfl, rfl⟩

/-- Two users that fill a page of two are delivered more than once. -/
theorem raw_pages_of_two_go_on :
    pairSetup.plainEngine.query.applyAll [.raw "SELECT id FROM users" []] = .ok (rawUsers false) ∧
      ∀ session : Session (Site Unit),
        (pairSetup.plainEngine.chunk (rawUsers false) 2 collect [] session).1.2 ≠ userPair ∧
        ((pairSetup.plainEngine.lazyRows (rawUsers false) 2 none).run session).1 ≠
          .ok (userPair, none) := by
  refine ⟨rfl, fun session => ?_⟩
  have pending : (rawUsers false).clauses.raw = some ⟨"SELECT id FROM users", {}⟩ := rfl
  have again := pairSetup.raw_repeats (.inr rfl) pending 2 (pair_repeats _) session
  have unkept : session.Holds
      (pairSetup.plainEngine.keyOf? (rawUsers false) (.page 0 2)).toList userPair :=
    fun _ none => (List.not_mem_nil none).elim
  have more : ∀ times, greatestWord < 0 + times * 2 →
      (List.replicate times userPair).flatten ≠ userPair := by
    intro times beyond same
    have length := congrArg List.length same
    rw [List.length_flatten, List.map_replicate, List.sum_replicate_nat] at length
    change times * 2 = 2 at length
    unfold greatestWord at beyond
    omega
  constructor
  · have proceeds : ∀ slice notes, (collect slice notes).1 = .ok .proceed := fun _ _ => rfl
    obtain ⟨times, result, after, run, _, rounds, _⟩ := Engine.chunkFrom_repeats again (by decide)
      proceeds 0 [] ⟨unkept, Session.Consults.refl⟩
    rw [Engine.chunk_of_positive _ _ (by decide), run]
    dsimp only
    rw [noted_collect]
    exact more times (rounds.onward (by decide))
  · obtain ⟨times, after, run, _, rounds⟩ := Engine.lazyFrom_repeats again (by decide) 0
      ⟨unkept, Session.Consults.refl⟩
    rw [Engine.lazyRows_run _ _ (by decide), run]
    intro same
    exact more times (rounds.onward (by decide))
      (congrArg Prod.fst (Except.ok.inj same))

end BoundQuery
