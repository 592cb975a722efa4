import BoundQuery.Proofs.Chunks
import BoundQuery.Proofs.CursorWalk
import BoundQuery.Proofs.PageArithmetic

/-!
Reading by numbered pages. The count and the fetch agree on one window of rows, for every page and
every size that may be asked for; an empty page is not fetched, and the pages from the first to the
last come to all the rows.
-/

set_option autoImplicit false

namespace BoundQuery

variable {World : Type}

/-- The rows of a page by their positions, counted from zero. -/
def pageWindow (number size : Nat) (rows : List Row) : List Row :=
  rows.extract ((number - 1) * size) (min (number * size) rows.length)

section Window

variable {number size : Nat} {rows : List Row}

theorem pageWindow_eq (known : 1 ≤ number) :
    pageWindow number size rows = (rows.drop ((number - 1) * size)).take size := by
  have next : number * size = (number - 1) * size + size := PageInfo.mul_of_known known
  unfold pageWindow List.extract
  rw [List.take_eq_take_iff, List.length_drop, next]
  omega

theorem length_pageWindow :
    (pageWindow number size rows).length =
      min (number * size) rows.length - (number - 1) * size := by
  unfold pageWindow List.extract
  rw [List.length_take, List.length_drop]
  omega

theorem pageWindow_eq_nil_iff (known : 1 ≤ number) (positive : 1 ≤ size) :
    pageWindow number size rows = [] ↔ rows.length ≤ (number - 1) * size := by
  have next : number * size = (number - 1) * size + size := PageInfo.mul_of_known known
  rw [← List.length_eq_zero_iff, length_pageWindow, next]
  omega

theorem flatMap_pageWindow (count : Nat) :
    (List.range' 1 count).flatMap (fun number => pageWindow number size rows) =
      rows.take (count * size) := by
  induction count with
  | zero =>
      rw [Nat.zero_mul, List.take_zero]
      rfl
  | succ count ih =>
      have last : pageWindow (1 + 1 * count) size rows = (rows.drop (count * size)).take size := by
        rw [pageWindow_eq (Nat.le_add_right 1 _), Nat.one_mul, Nat.add_sub_cancel_left]
      rw [List.range'_concat, List.flatMap_append, ih, List.flatMap_singleton, last, Nat.succ_mul,
        List.take_add]

end Window

/-- A page holds the rows of its window and says where they stand and how many others there are. -/
structure Paginated.Shows (number size : Nat) (rows : List Row) (page : Paginated) : Prop where
  data : page.data = pageWindow number size rows
  asked : page.pagination.page = number ∧ page.pagination.perPage = size
  counted : page.pagination.total = rows.length ∧
    page.pagination.totalPages = ceilDiv rows.length size
  placed : page.data ≠ [] → page.pagination.first = (number - 1) * size + 1 ∧
    page.pagination.last = (number - 1) * size + page.data.length
  empty : page.data = [] → page.pagination.first = 0 ∧ page.pagination.last = 0
  hasMore : page.pagination.hasMore = true ↔ rows.drop (number * size) ≠ []

theorem Paginated.shows_make {number size : Nat} {rows : List Row} (known : 1 ≤ number)
    (positive : 1 ≤ size) (word : rows.length ≤ greatestWord) :
    Shows number size rows
      ⟨pageWindow number size rows, PageInfo.make number size rows.length⟩ where
  data := rfl
  asked := ⟨rfl, rfl⟩
  counted := ⟨rfl, rfl⟩
  placed := by
    intro some
    have within : (number - 1) * size < rows.length := by
      rw [← Nat.not_le]
      exact fun beyond => some ((pageWindow_eq_nil_iff known positive).mpr beyond)
    have next : number * size = (number - 1) * size + size := PageInfo.mul_of_known known
    obtain ⟨first, last⟩ := PageInfo.make_within known word within
    rw [first, last, length_pageWindow]
    omega
  empty := fun none => PageInfo.make_beyond ((pageWindow_eq_nil_iff known positive).mp none)
  hasMore := by
    rw [PageInfo.hasMore_iff positive, Ne, List.drop_eq_nil_iff, Nat.not_le]

/-! ### Counting -/

/-- The executor counts: the first row of its answer has the number under the name of the
aggregate. -/
def Executor.Counts (executor : Executor World) (statement : Statement) (count : Nat) : Prop :=
  ∀ world, ∃ output row others,
    (executor.query statement.sql statement.bindings world).1 = .ok output ∧
      output.rows = row :: others ∧ row.lookup aggregateAlias = some (.number (.int count))

theorem countOf?_number (count : Nat) : countOf? (.number (.int count)) = some count := by
  have natural : (0 : Int) ≤ count := Int.natCast_nonneg count
  simp only [countOf?, if_pos natural, Int.toNat_natCast]

namespace Engine

variable {engine : Engine (Logged World)} {builder : Builder} {executor : Executor World}
variable {counting : Statement} {page : Nat → Statement} {rows : List Row} {number size : Nat}

section Read

variable (records : engine.executor = executor.logged) (uncached : engine.Uncached builder)
variable (counted : builder.statementOf .count = .ok counting)
variable (counts : executor.Counts counting rows.length)

include records uncached counted counts

theorem count_run (session : Session (Logged World)) :
    (engine.count builder).run session =
      (.ok rows.length, session.afterExchange executor counting) := by
  obtain ⟨output, row, others, answered, given, named⟩ := counts session.world.world
  have received : engine.received builder (session.exchange executor counting) =
      .ok ((row :: others).map (engine.shown builder)) := by
    unfold Engine.received Session.exchange
    rw [answered, ← given]
    rfl
  have held : aggregateOf ((row :: others).map (engine.shown builder)) =
      .number (.int rows.length) := by
    rw [List.map_cons, aggregateOf, engine.lookup_shown_number builder named]
  have asked : engine.count builder =
      (fun rows => (countOf? (aggregateOf rows)).getD 0) <$>
        QueryOutput.rows <$> engine.read builder .count := by
    rw [count_eq_read, ← comp_map]
    rfl
  rw [asked, Action.run_map, read_rows records uncached counted, received]
  simp only [Except.map, held, countOf?_number, Option.getD_some]

variable (made : ∀ offset, builder.statementOf (.page offset size) = .ok (page offset))
variable (answers : executor.Pages page size rows)

include made answers

theorem paginate_shows {asked perPage : Int} (clamped : positiveOr 1 asked = number)
    (sized : positiveOr (max 1 engine.config.defaultPerPage) perPage = size)
    (known : 1 ≤ number) (positive : 1 ≤ size) (word : rows.length ≤ greatestWord)
    (session : Session (Logged World)) :
    ∃ shown after, (engine.paginate builder asked perPage).run session = (.ok shown, after) ∧
      shown.Shows number size (rows.map (engine.shown builder)) ∧
      session.Sends after
        (counting :: if shown.data.isEmpty then [] else [page ((number - 1) * size)]) := by
  let all := rows.map (engine.shown builder)
  let info := PageInfo.make number size rows.length
  let middle := session.afterExchange executor counting
  have length : all.length = rows.length := List.length_map _
  have shows : Paginated.Shows number size all
      ⟨pageWindow number size all, PageInfo.make number size all.length⟩ :=
    Paginated.shows_make known positive (by rwa [length])
  rw [length] at shows
  have run : (engine.paginate builder asked perPage).run session =
      (do let data ← if info.first = 0 then pure [] else engine.fetchPage builder info.offset size
          pure ⟨data, info⟩ : Action (Logged World) Paginated).run middle := by
    unfold paginate
    rw [clamped, sized]
    exact Action.run_bind_ok (count_run records uncached counted counts session) _
  rw [run]
  by_cases within : (number - 1) * size < rows.length
  · have first : info.first ≠ 0 := by
      rw [(PageInfo.make_within known word within).1]
      exact Nat.succ_ne_zero _
    have offset : info.offset = (number - 1) * size := PageInfo.offset_within word within
    have listed : number - 1 ≤ rows.length / size :=
      (Nat.le_div_iff_mul_le positive).mpr (Nat.le_of_lt within)
    have fetched := fetchPage_run records uncached (made ((number - 1) * size)) middle
    rw [received_page engine builder answers listed, ← pageWindow_eq known] at fetched
    have some : (pageWindow number size all).isEmpty = false := by
      rw [List.isEmpty_eq_false_iff, Ne, pageWindow_eq_nil_iff known positive, length]
      omega
    refine ⟨⟨pageWindow number size all, info⟩,
      middle.afterExchange executor (page ((number - 1) * size)), ?_, shows, ?_⟩
    · rw [if_neg first, offset]
      exact Action.run_bind_ok fetched _
    · dsimp only
      rw [some]
      exact Session.Sends.step Session.Sends.last
  · have beyond : rows.length ≤ (number - 1) * size := Nat.le_of_not_lt within
    have none : pageWindow number size all = [] :=
      (pageWindow_eq_nil_iff known positive).mpr (by rwa [length])
    rw [none] at shows
    refine ⟨⟨[], info⟩, middle, ?_, shows, Session.Sends.last⟩
    rw [if_pos (PageInfo.make_beyond beyond).1]
    rfl

/-- Pages that are read one after another bring their windows in the same order. -/
theorem paginate_walks {perPage : Int}
    (sized : positiveOr (max 1 engine.config.defaultPerPage) perPage = size)
    (positive : 1 ≤ size) (word : rows.length ≤ greatestWord) {numbers : List Nat}
    (known : ∀ number ∈ numbers, 1 ≤ number) (session : Session (Logged World)) :
    ∃ shown after,
      (numbers.mapM fun number : Nat => engine.paginate builder number perPage).run session =
        (.ok shown, after) ∧
      shown.flatMap Paginated.data =
        numbers.flatMap fun number => pageWindow number size (rows.map (engine.shown builder)) := by
  induction numbers generalizing session with
  | nil => exact ⟨[], session, rfl, rfl⟩
  | cons number rest ih =>
      have least : 1 ≤ number := known number List.mem_cons_self
      have clamped : positiveOr 1 (number : Int) = number := by
        unfold positiveOr
        rw [if_pos (by omega), Int.toNat_natCast]
      obtain ⟨first, middle, own, shows, _⟩ := paginate_shows records uncached counted counts made
        answers clamped sized least positive word session
      obtain ⟨others, after, further, whole⟩ :=
        ih (fun other member => known other (List.mem_cons_of_mem _ member)) middle
      refine ⟨first :: others, after, ?_, ?_⟩
      · rw [List.mapM_cons, Action.run_bind_ok own, Action.run_bind_ok further]
        rfl
      · rw [List.flatMap_cons, List.flatMap_cons, whole, shows.data]

end Read

end Engine

/-- For every page and every size a numbered page holds the rows of its window, told from the
executor's count and its answer to one statement; the statement is sent only where the page has
rows. The pages from the first to the last bring all rows in order. -/
theorem numbered_pages_cover_rows (executor : Executor World) (engine : Engine (Logged World))
    (records : engine.executor = executor.logged) (calls : List Call) (builder : Builder)
    (reached : engine.query.applyAll calls = .ok builder)
    (typed : ∀ call ∈ calls, call.isRaw = false) (idle : builder.clauses.isWrite = false)
    (uncached : engine.Uncached builder) (perPage : Int) (size : Nat)
    (sized : size = if 1 ≤ perPage then perPage.toNat else max 1 engine.config.defaultPerPage) :
    ∃ (counting : Statement) (page : Nat → Statement),
      builder.statementOf .count = .ok counting ∧
      (∀ offset, builder.statementOf (.page offset size) = .ok (page offset)) ∧
      ∀ rows : List Row, rows.length ≤ greatestWord → executor.Counts counting rows.length →
        executor.Pages page size rows →
        (∀ (asked : Int) (session : Session (Logged World)), ∃ shown after,
          (engine.paginate builder asked perPage).run session = (.ok shown, after) ∧
            shown.Shows (max 1 asked).toNat size (rows.map (engine.shown builder)) ∧
            session.Sends after
              (counting ::
                if shown.data.isEmpty then [] else [page (((max 1 asked).toNat - 1) * size)])) ∧
        ∀ session : Session (Logged World), ∃ shown after,
          ((List.range' 1 (ceilDiv rows.length size)).mapM fun number : Nat =>
              engine.paginate builder number perPage).run session = (.ok shown, after) ∧
            shown.flatMap Paginated.data = rows.map (engine.shown builder) := by
  obtain ⟨_, aligned, meant⟩ := Builder.reached_draft reached
  have unset := Clauses.raw_of_draft typed meant
  obtain ⟨pieces, accepted⟩ :
      ∃ pieces, builder.clauses.draft.piecesFor builder.profile .count = .ok pieces :=
    Builder.piecesFor_ok unset idle
  have counted := Builder.statementOf_eq aligned unset .count
  rw [accepted] at counted
  have made : ∀ offset, builder.statementOf (.page offset size) = .ok _ :=
    fun offset => Builder.statementOf_eq aligned unset (.page offset size)
  have standsIn : positiveOr (max 1 engine.config.defaultPerPage) perPage = size := sized.symm
  have positive : 1 ≤ size := by
    rw [sized]
    split
    · omega
    · exact Nat.le_max_left 1 _
  refine ⟨_, _, counted, made, ?_⟩
  intro rows word counts answers
  constructor
  · intro asked session
    have clamped : positiveOr 1 asked = (max 1 asked).toNat := by
      unfold positiveOr
      split
      · rename_i least
        rw [max_eq_right least]
      · rename_i less
        rw [max_eq_left (by omega)]
        rfl
    exact Engine.paginate_shows records uncached counted counts made answers clamped standsIn
      (by omega) positive word session
  · intro session
    have known : ∀ number ∈ List.range' 1 (ceilDiv rows.length size), 1 ≤ number :=
      fun number listed => (List.mem_range'_1.mp listed).1
    obtain ⟨shown, after, run, whole⟩ := Engine.paginate_walks records uncached counted counts made
      answers standsIn positive word known session
    have all : rows.length ≤ ceilDiv rows.length size * size :=
      (ceilDiv_le_iff positive).mp (Nat.le_refl _)
    rw [flatMap_pageWindow, List.take_of_length_le (by rwa [List.length_map])] at whole
    exact ⟨shown, after, run, whole⟩

def countedExecutor : Executor Unit :=
  { query := fun sql _ outside =>
      (.ok { rows :=
        if sql = "SELECT COUNT(*) AS aggregate FROM \"clients\" WHERE \"age\" >= $1" then
          [[("aggregate", .number (.int 3))]]
        else if sql = "SELECT * FROM \"clients\" WHERE \"age\" >= $1 LIMIT 2 OFFSET 2" then
          clients.drop 2
        else clients.take 2 }, outside)
    execute := fun _ _ outside => (.ok {}, outside) }

def countedEngine : Engine (Logged Unit) :=
  { executor := countedExecutor.logged
    profile := Dialect.postgresql.profile
    config := { defaultPerPage := 2 } }

/-- With a limit and an offset of their own, for which the pages have no use. -/
def limitedClients : List Call :=
  [.readFrom "clients", .compare .and "age" ">=" (.int 18), .limit 1, .offset 7]

theorem numbered_pages_cover_clients :
    ∃ builder counting, countedEngine.query.applyAll limitedClients = .ok builder ∧
      builder.statementOf .count = .ok counting ∧
      ∀ session : Session (Logged Unit),
        (∃ shown after,
          (countedEngine.paginate builder greatestSigned 0).run session = (.ok shown, after) ∧
            shown.data = [] ∧ session.Sends after [counting]) ∧
        ∃ shown after,
          ([1, 2].mapM fun number : Nat => countedEngine.paginate builder number 0).run session =
              (.ok shown, after) ∧
            shown.flatMap Paginated.data = clients := by
  have texts : (countedEngine.query.applyAll limitedClients >>= fun builder =>
      builder.statementOf .count >>= fun counting =>
        builder.statementOf (.page 0 2) >>= fun first =>
          (builder.statementOf (.page 2 2)).map (fun second =>
            (builder.clauses.isWrite, counting.sql, first.sql, second.sql))).toOption =
      some (false, "SELECT COUNT(*) AS aggregate FROM \"clients\" WHERE \"age\" >= $1",
        "SELECT * FROM \"clients\" WHERE \"age\" >= $1 LIMIT 2 OFFSET 0",
        "SELECT * FROM \"clients\" WHERE \"age\" >= $1 LIMIT 2 OFFSET 2") := by
    decide +kernel
  obtain ⟨builder, reached, shown⟩ := exists_of_bind_ok (ok_of_toOption texts)
  have idle : builder.clauses.isWrite = false := by
    have clear : (countedEngine.query.applyAll limitedClients).map
        (fun builder => builder.clauses.isWrite) = .ok false := rfl
    rw [reached] at clear
    exact Except.ok.inj clear
  obtain ⟨counting, page, counted, made, covers⟩ := numbered_pages_cover_rows countedExecutor
    countedEngine rfl limitedClients builder reached (by decide) idle (.inl rfl) 0 2 rfl
  have read : (builder.statementOf .count >>= fun counting =>
      builder.statementOf (.page 0 2) >>= fun first =>
        (builder.statementOf (.page 2 2)).map (fun second =>
          (builder.clauses.isWrite, counting.sql, first.sql, second.sql))) =
        .ok (builder.clauses.isWrite, counting.sql, (page 0).sql, (page 2).sql) := by
    rw [counted, made, made]
    rfl
  obtain ⟨_, asked, first, second⟩ : _ ∧ _ ∧ _ ∧ _ := by
    simpa only [Except.ok.injEq, Prod.mk.injEq] using read.symm.trans shown
  have counts : countedExecutor.Counts counting 3 := by
    intro world
    refine ⟨_, [("aggregate", .number (.int 3))], [], rfl, ?_, rfl⟩
    rw [asked]
    rfl
  have answers : countedExecutor.Pages page 2 clients := by
    intro number within world
    obtain rfl | rfl : number = 0 ∨ number = 1 := by
      have : clients.length / 2 = 1 := rfl
      omega
    · refine ⟨_, rfl, ?_⟩
      rw [first]
      rfl
    · refine ⟨_, rfl, ?_⟩
      rw [second]
      rfl
  obtain ⟨shows, walks⟩ := covers clients (by decide) counts answers
  refine ⟨builder, counting, reached, counted, fun session => ⟨?_, walks session⟩⟩
  obtain ⟨shown, after, run, page, sent⟩ := shows greatestSigned session
  have none : shown.data = [] := by
    rw [page.data]
    refine (pageWindow_eq_nil_iff (by decide) (by decide)).mpr ?_
    rw [List.length_map]
    decide
  rw [none] at sent
  exact ⟨shown, after, run, none, sent⟩

end BoundQuery
