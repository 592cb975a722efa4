import BoundQuery.Proofs.Sending

/-!
Reading in chunks and row by row. Both walk through the pages of a builder until one is short, and
they deliver between them the same rows from the same statements; whatever goes wrong on the way
ends the walk at once.
-/

set_option autoImplicit false

namespace BoundQuery

variable {World : Type}

/-! ### Slices -/

/-- Consecutive slices of some rows, none of them empty, and each but the last of full size. -/
structure Cuts (size : Nat) (rows : List Row) (slices : List (List Row)) : Prop where
  whole : slices.flatten = rows
  some : ∀ slice ∈ slices, slice ≠ [] ∧ slice.length ≤ size
  full : ∀ slice ∈ slices.dropLast, slice.length = size

namespace Cuts

variable {size : Nat} {rows : List Row} {slices : List (List Row)}

theorem nil : Cuts size [] [] where
  whole := rfl
  some := by simp
  full := by simp

theorem single (some : rows ≠ []) (fits : rows.length ≤ size) : Cuts size rows [rows] where
  whole := List.append_nil rows
  some := List.forall_mem_singleton.mpr ⟨some, fits⟩
  full := by simp

theorem cons (positive : 1 ≤ size) (least : size ≤ rows.length)
    (rest : Cuts size (rows.drop size) slices) : Cuts size rows (rows.take size :: slices) := by
  have front : (rows.take size).length = size := by
    rw [List.length_take]
    omega
  refine ⟨?_, ?_, ?_⟩
  · rw [List.flatten_cons, rest.whole, List.take_append_drop]
  · refine List.forall_mem_cons.mpr ⟨⟨fun empty => ?_, Nat.le_of_eq front⟩, rest.some⟩
    rw [empty, List.length_nil] at front
    omega
  · cases slices with
    | nil => exact fun slice member => absurd member List.not_mem_nil
    | cons next others =>
        rw [List.dropLast_cons_cons]
        exact List.forall_mem_cons.mpr ⟨front, rest.full⟩

end Cuts

/-- As many full slices as are said, and behind them what is left, if anything is. -/
def slices (size : Nat) : Nat → List Row → List (List Row)
  | 0, rows => if rows.isEmpty then [] else [rows]
  | full + 1, rows => rows.take size :: slices size full (rows.drop size)

theorem slices_cut {size : Nat} (positive : 1 ≤ size) :
    ∀ (full : Nat) (rows : List Row), full * size ≤ rows.length →
      rows.length < (full + 1) * size → Cuts size rows (slices size full rows) := by
  intro full
  induction full with
  | zero =>
      intro rows _ most
      cases rows with
      | nil => exact Cuts.nil
      | cons row rest => exact Cuts.single (List.cons_ne_nil row rest) (by omega)
  | succ full ih =>
      intro rows least most
      have split : (full + 1) * size = full * size + size := Nat.succ_mul full size
      have further : (full + 1 + 1) * size = (full + 1) * size + size := Nat.succ_mul _ size
      have rest : (rows.drop size).length = rows.length - size := List.length_drop
      exact Cuts.cons positive (by omega) (ih (rows.drop size) (by omega) (by omega))

/-! ### What is sent -/

namespace Session

variable {executor : Executor World} {session after : Session (Logged World)}
variable {statement : Statement}

/-- One statement after another is sent, and none behind an exchange that halts the walk, which may
depend on the exchanges before it. -/
def Walks (before after : Session (Logged World)) (pages : Nat → Statement)
    (halts : List Exchange → Exchange → Prop) : Prop :=
  ∃ log, after.sent = before.sent ++ log ∧
    log.map Exchange.statement = (List.range log.length).map pages ∧
    ∀ position exchange, log[position]? = some exchange → halts (log.take position) exchange →
      log.length = position + 1

variable {pages : Nat → Statement} {halts : List Exchange → Exchange → Prop}

theorem Walks.last (first : pages 0 = statement) :
    Walks session (session.afterExchange executor statement) pages halts := by
  refine ⟨[session.exchange executor statement], rfl, ?_, ?_⟩
  · rw [List.map_singleton, List.length_singleton, List.range_one, List.map_singleton, first]
    rfl
  · intro position exchange found _
    obtain ⟨inside, _⟩ := List.getElem?_eq_some_iff.mp found
    rw [List.length_singleton] at inside ⊢
    omega

theorem Walks.step {others : Nat → Statement} {later : List Exchange → Exchange → Prop}
    (first : pages 0 = statement) (next : ∀ number, pages (number + 1) = others number)
    (onward : ¬halts [] (session.exchange executor statement))
    (behind : ∀ log exchange, halts (session.exchange executor statement :: log) exchange →
      later log exchange)
    (walk : Walks (session.afterExchange executor statement) after others later) :
    Walks session after pages halts := by
  obtain ⟨log, grown, asked, halted⟩ := walk
  refine ⟨session.exchange executor statement :: log, ?_, ?_, ?_⟩
  · rw [grown]
    exact List.append_assoc _ _ _
  · have shifted : pages ∘ Nat.succ = others := funext next
    rw [List.map_cons, asked, List.length_cons, List.range_succ_eq_map, List.map_cons,
      List.map_map, shifted, first]
    rfl
  · intro position exchange found stops
    cases position with
    | zero =>
        cases found
        exact absurd stops onward
    | succ position =>
        rw [List.length_cons, halted position exchange found (behind _ _ stops)]

end Session

/-- The executor answers the pages of a table; they are known by their offsets. -/
def Executor.Pages (executor : Executor World) (page : Nat → Statement) (size : Nat)
    (rows : List Row) : Prop :=
  ∀ number ≤ rows.length / size, ∀ world, ∃ output,
    (executor.query (page (number * size)).sql (page (number * size)).bindings world).1 =
        .ok output ∧
      output.rows = (rows.drop (number * size)).take size

/-- The reader's notes after some slices. -/
def noted {Notes : Type} (read : List Row → StateM Notes (Except QueryError Flow))
    (notes : Notes) (slices : List (List Row)) : Notes :=
  slices.foldl (fun notes slice => (read slice notes).2) notes

namespace Engine

section Fetch

variable (engine : Engine World) (builder : Builder) (size offset : Nat) (session : Session World)

theorem chunkFrom_eq {Notes : Type} (read : List Row → StateM Notes (Except QueryError Flow))
    (notes : Notes) :
    engine.chunkFrom builder size read offset notes session =
      (let fetched := (engine.fetchPage builder offset size).run session
      match fetched.1 with
      | .error error => ((.error error, notes), fetched.2)
      | .ok slice =>
          if slice.isEmpty then ((.ok (), notes), fetched.2)
          else
            match (read slice notes).1 with
            | .error error => ((.error error, (read slice notes).2), fetched.2)
            | .ok flow =>
                if flow = .stop || slice.length < size then
                  ((.ok (), (read slice notes).2), fetched.2)
                else if 0 < size ∧ offset + size ≤ greatestWord then
                  engine.chunkFrom builder size read (offset + size) (read slice notes).2 fetched.2
                else
                  ((.error (.internal "page offset out of range"), (read slice notes).2),
                    fetched.2)) := by
  rw [chunkFrom]
  simp only [bind, StateT.bind]
  cases (engine.fetchPage builder offset size).run session with
  | mk outcome after =>
      cases outcome with
      | error error => rfl
      | ok slice =>
          cases slice with
          | nil => rfl
          | cons row rest =>
              simp only [List.isEmpty_cons, Bool.false_eq_true, if_false]
              cases (read (row :: rest) notes).1 with
              | error error => rfl
              | ok flow =>
                  dsimp only
                  split
                  · rfl
                  · split
                    · rfl
                    · rfl

theorem lazyFrom_eq :
    engine.lazyFrom builder size offset none session =
      (let fetched := (engine.fetchPage builder offset size).run session
      match fetched.1 with
      | .error error => (([], some error), fetched.2)
      | .ok slice =>
          if slice.length = size ∧ 0 < size ∧ offset + size ≤ greatestWord then
            let later := engine.lazyFrom builder size (offset + size) none fetched.2
            ((slice ++ later.1.1, later.1.2), later.2)
          else ((slice, none), fetched.2)) := by
  rw [lazyFrom, if_neg (by simp)]
  simp only [bind, StateT.bind]
  cases (engine.fetchPage builder offset size).run session with
  | mk outcome after =>
      cases outcome with
      | error error => rfl
      | ok slice =>
          dsimp only
          split
          · rfl
          · rfl

end Fetch

variable {engine : Engine (Logged World)} {builder : Builder} {executor : Executor World}
variable {size : Nat} {page : Nat → Statement} {rows slice : List Row} {Notes : Type}

section Page

variable (records : engine.executor = executor.logged) (uncached : engine.Uncached builder)
variable (made : ∀ offset, builder.statementOf (.page offset size) = .ok (page offset))
variable (offset : Nat) (session : Session (Logged World))
variable (read : List Row → StateM Notes (Except QueryError Flow)) (notes : Notes)

include records uncached made

theorem chunkFrom_run :
    engine.chunkFrom builder size read offset notes session =
      (let after := session.afterExchange executor (page offset)
      match engine.received builder (session.exchange executor (page offset)) with
      | .error error => ((.error error, notes), after)
      | .ok slice =>
          if slice.isEmpty then ((.ok (), notes), after)
          else
            match (read slice notes).1 with
            | .error error => ((.error error, (read slice notes).2), after)
            | .ok flow =>
                if flow = .stop || slice.length < size then ((.ok (), (read slice notes).2), after)
                else if 0 < size ∧ offset + size ≤ greatestWord then
                  engine.chunkFrom builder size read (offset + size) (read slice notes).2 after
                else
                  ((.error (.internal "page offset out of range"), (read slice notes).2),
                    after)) := by
  rw [chunkFrom_eq, fetchPage_run records uncached (made offset)]

theorem lazyFrom_run :
    engine.lazyFrom builder size offset none session =
      (let after := session.afterExchange executor (page offset)
      match engine.received builder (session.exchange executor (page offset)) with
      | .error error => (([], some error), after)
      | .ok slice =>
          if slice.length = size ∧ 0 < size ∧ offset + size ≤ greatestWord then
            let later := engine.lazyFrom builder size (offset + size) none after
            ((slice ++ later.1.1, later.1.2), later.2)
          else ((slice, none), after)) := by
  rw [lazyFrom_eq, fetchPage_run records uncached (made offset)]

theorem chunkFrom_cases :
    (engine.chunkFrom builder size read offset notes session).2 =
        session.afterExchange executor (page offset) ∨
      ∃ slice, engine.received builder (session.exchange executor (page offset)) = .ok slice ∧
        (read slice notes).1 = .ok .proceed ∧ 0 < size ∧ offset + size ≤ greatestWord ∧
        engine.chunkFrom builder size read offset notes session =
          engine.chunkFrom builder size read (offset + size) (read slice notes).2
            (session.afterExchange executor (page offset)) := by
  rw [chunkFrom_run records uncached made]
  dsimp only
  cases engine.received builder (session.exchange executor (page offset)) with
  | error error => exact .inl rfl
  | ok slice =>
      dsimp only
      split
      · exact .inl rfl
      · cases said : (read slice notes).1 with
        | error error => exact .inl rfl
        | ok flow =>
            dsimp only
            split
            · exact .inl rfl
            · rename_i onward
              have proceeds : flow = .proceed := by
                cases flow with
                | proceed => rfl
                | stop => exact absurd rfl onward
              split
              · rename_i within
                exact .inr ⟨slice, rfl, by rw [said, proceeds], within.1, within.2, rfl⟩
              · exact .inl rfl

end Page

section Table

variable (records : engine.executor = executor.logged) (uncached : engine.Uncached builder)
variable (made : ∀ offset, builder.statementOf (.page offset size) = .ok (page offset))
variable (answers : executor.Pages page size rows)

variable (engine builder) in
include answers in
theorem received_page {number : Nat} (within : number ≤ rows.length / size)
    (session : Session (Logged World)) :
    engine.received builder (session.exchange executor (page (number * size))) =
      .ok (((rows.map (engine.shown builder)).drop (number * size)).take size) := by
  obtain ⟨output, answered, given⟩ := answers number within session.world.world
  unfold received Session.exchange
  rw [answered, ← List.map_drop, ← List.map_take, ← given]
  rfl

variable (engine builder) in
include answers in
theorem last_page (positive : 0 < size) {number : Nat} (last : number = rows.length / size)
    (session : Session (Logged World)) :
    ((rows.map (engine.shown builder)).drop (number * size)).length < size ∧
      engine.received builder (session.exchange executor (page (number * size))) =
        .ok ((rows.map (engine.shown builder)).drop (number * size)) := by
  have most : rows.length < (number + 1) * size := by
    rw [last, Nat.mul_comm]
    exact Nat.lt_mul_div_succ rows.length positive
  have short : ((rows.map (engine.shown builder)).drop (number * size)).length < size := by
    rw [List.length_drop, List.length_map]
    rw [Nat.succ_mul] at most
    omega
  have given := received_page engine builder answers (Nat.le_of_eq last) session
  rw [List.take_of_length_le (Nat.le_of_lt short)] at given
  exact ⟨short, given⟩

variable (engine builder) in
include answers in
theorem full_page {number : Nat} (further : number < rows.length / size)
    (session : Session (Logged World)) :
    number * size + size ≤ rows.length ∧
      (((rows.map (engine.shown builder)).drop (number * size)).take size).length = size ∧
      engine.received builder (session.exchange executor (page (number * size))) =
        .ok (((rows.map (engine.shown builder)).drop (number * size)).take size) := by
  have least : number * size + size ≤ rows.length := by
    rw [← Nat.succ_mul]
    exact Nat.le_trans (Nat.mul_le_mul_right size further) (Nat.div_mul_le_self rows.length size)
  refine ⟨least, ?_, received_page engine builder answers (Nat.le_of_lt further) session⟩
  rw [List.length_take, List.length_drop, List.length_map]
  omega

include records uncached made answers

theorem chunkFrom_delivers (positive : 0 < size) (small : (rows.length : Int) ≤ greatestSigned)
    {read : List Row → StateM Notes (Except QueryError Flow)}
    (proceeds : ∀ slice notes, (read slice notes).1 = .ok .proceed) :
    ∀ (full number : Nat), number + full = rows.length / size →
      ∀ (notes : Notes) (session : Session (Logged World)),
        (engine.chunkFrom builder size read (number * size) notes session).1 =
            (.ok (), noted read notes
              (slices size full ((rows.map (engine.shown builder)).drop (number * size)))) ∧
          session.Sends (engine.chunkFrom builder size read (number * size) notes session).2
            ((List.range' number (full + 1)).map (fun number => page (number * size))) := by
  intro full
  induction full with
  | zero =>
      intro number count notes session
      rw [Nat.add_zero] at count
      obtain ⟨short, given⟩ := last_page engine builder answers positive count session
      rw [chunkFrom_run records uncached made, given]
      cases rest : (rows.map (engine.shown builder)).drop (number * size) with
      | nil => exact ⟨rfl, Session.Sends.last⟩
      | cons row others =>
          rw [rest] at short
          simp only [List.isEmpty_cons, Bool.false_eq_true, if_false, proceeds, short, decide_true,
            Bool.or_true, if_true]
          exact ⟨rfl, Session.Sends.last⟩
  | succ full ih =>
      intro number count notes session
      obtain ⟨least, size_own, given⟩ := full_page engine builder answers
        (show number < rows.length / size by omega) session
      have some : (((rows.map (engine.shown builder)).drop (number * size)).take size).isEmpty =
          false := by
        rw [List.isEmpty_eq_false_iff, ← List.length_pos_iff, size_own]
        exact positive
      have word : number * size + size ≤ greatestWord := by
        unfold greatestWord greatestSigned at *
        omega
      have onward : number * size + size = (number + 1) * size := (Nat.succ_mul number size).symm
      obtain ⟨delivered, sent⟩ := ih (number + 1) (by omega)
        (read (((rows.map (engine.shown builder)).drop (number * size)).take size) notes).2
        (session.afterExchange executor (page (number * size)))
      rw [chunkFrom_run records uncached made, given]
      simp only [some, Bool.false_eq_true, if_false, proceeds, size_own, Nat.lt_irrefl,
        reduceCtorEq, decide_false, Bool.or_false, positive, word, and_self, if_true]
      rw [onward]
      refine ⟨?_, sent.step⟩
      rw [slices, List.drop_drop, onward]
      exact delivered

theorem lazyFrom_delivers (positive : 0 < size) (small : (rows.length : Int) ≤ greatestSigned) :
    ∀ (full number : Nat), number + full = rows.length / size →
      ∀ session : Session (Logged World),
        (engine.lazyFrom builder size (number * size) none session).1 =
            ((rows.map (engine.shown builder)).drop (number * size), none) ∧
          session.Sends (engine.lazyFrom builder size (number * size) none session).2
            ((List.range' number (full + 1)).map (fun number => page (number * size))) := by
  intro full
  induction full with
  | zero =>
      intro number count session
      rw [Nat.add_zero] at count
      obtain ⟨short, given⟩ := last_page engine builder answers positive count session
      rw [lazyFrom_run records uncached made, given]
      dsimp only
      rw [if_neg (fun full => Nat.ne_of_lt short full.1)]
      exact ⟨rfl, Session.Sends.last⟩
  | succ full ih =>
      intro number count session
      obtain ⟨least, size_own, given⟩ := full_page engine builder answers
        (show number < rows.length / size by omega) session
      have word : number * size + size ≤ greatestWord := by
        unfold greatestWord greatestSigned at *
        omega
      have onward : number * size + size = (number + 1) * size := (Nat.succ_mul number size).symm
      obtain ⟨delivered, sent⟩ := ih (number + 1) (by omega)
        (session.afterExchange executor (page (number * size)))
      rw [lazyFrom_run records uncached made, given]
      simp only [size_own, positive, word, and_self, if_true]
      rw [onward, delivered]
      refine ⟨?_, sent.step⟩
      rw [← onward, ← List.drop_drop, List.take_append_drop]

end Table

/-- The exchange failed, or the reader did not go on with what it brought. -/
def Halts (engine : Engine (Logged World)) (builder : Builder)
    (read : List Row → StateM Notes (Except QueryError Flow)) (notes : Notes)
    (exchange : Exchange) : Prop :=
  match engine.received builder exchange with
  | .error _ => True
  | .ok slice => slice ≠ [] ∧ (read slice notes).1 ≠ .ok .proceed

/-- The slices that some exchanges brought. -/
def brought (engine : Engine (Logged World)) (builder : Builder) (log : List Exchange) :
    List (List Row) :=
  log.filterMap (fun exchange => (engine.received builder exchange).toOption)

section Ends

variable (records : engine.executor = executor.logged) (uncached : engine.Uncached builder)
variable (made : ∀ offset, builder.statementOf (.page offset size) = .ok (page offset))

theorem page_succ (page : Nat → Statement) (offset size number : Nat) :
    page (offset + (number + 1) * size) = page (offset + size + number * size) := by
  rw [Nat.succ_mul, Nat.add_assoc, Nat.add_comm size]

theorem page_zero (page : Nat → Statement) (offset size : Nat) :
    page (offset + 0 * size) = page offset := by
  rw [Nat.zero_mul, Nat.add_zero]

include records uncached made

/-- The exchanges ask for page after page, and none comes after one that halts the walk. -/
theorem chunkFrom_walks (read : List Row → StateM Notes (Except QueryError Flow)) (offset : Nat)
    (notes : Notes) (session : Session (Logged World)) :
    session.Walks (engine.chunkFrom builder size read offset notes session).2
      (fun number => page (offset + number * size))
      (fun log => engine.Halts builder read (noted read notes (engine.brought builder log))) := by
  induction remaining : greatestWord - offset using Nat.strongRecOn generalizing
    offset notes session with
  | _ left ih =>
      rcases chunkFrom_cases records uncached made offset session read notes with
        last | ⟨slice, given, proceeds, positive, within, onward⟩
      · rw [last]
        exact Session.Walks.last (page_zero page offset size)
      · have further := ih (greatestWord - (offset + size)) (by omega) (offset + size)
          (read slice notes).2 (session.afterExchange executor (page offset)) rfl
        rw [onward]
        refine Session.Walks.step (page_zero page offset size) (page_succ page offset size) ?_ ?_
          further
        · intro halts
          unfold Halts at halts
          rw [given] at halts
          exact halts.2 proceeds
        · intro log exchange halts
          have own : engine.brought builder (session.exchange executor (page offset) :: log) =
              slice :: engine.brought builder log :=
            List.filterMap_cons_some (by rw [given]; rfl)
          rw [own] at halts
          exact halts

theorem lazyFrom_walks (offset : Nat) (session : Session (Logged World)) :
    session.Walks (engine.lazyFrom builder size offset none session).2
      (fun number => page (offset + number * size))
      (fun _ exchange => ∃ error, exchange.answer = .error error) := by
  induction remaining : greatestWord - offset using Nat.strongRecOn generalizing offset session with
  | _ left ih =>
      rw [lazyFrom_run records uncached made]
      dsimp only
      cases given : engine.received builder (session.exchange executor (page offset)) with
      | error error => exact Session.Walks.last (page_zero page offset size)
      | ok slice =>
          dsimp only
          split
          · rename_i full
            have further := ih (greatestWord - (offset + size)) (by omega) (offset + size)
              (session.afterExchange executor (page offset)) rfl
            refine Session.Walks.step (page_zero page offset size) (page_succ page offset size) ?_
              (fun _ _ halts => halts) further
            rintro ⟨error, failed⟩
            unfold received at given
            rw [failed] at given
            cases given
          · exact Session.Walks.last (page_zero page offset size)

end Ends

end Engine

/-! ### From the first page -/

theorem Engine.chunk_of_positive (engine : Engine World) (builder : Builder) {size : Nat}
    (positive : 1 ≤ size) {Notes : Type} (read : List Row → StateM Notes (Except QueryError Flow))
    (notes : Notes) :
    engine.chunk builder size read notes = engine.chunkFrom builder size read 0 notes := by
  unfold chunk
  rw [if_neg (Nat.ne_of_gt positive)]

theorem Engine.lazyRows_run (engine : Engine World) (builder : Builder) {size : Nat}
    (positive : 1 ≤ size) (session : Session World) :
    (engine.lazyRows builder size none).run session =
      (.ok (engine.lazyFrom builder size 0 none session).1,
        (engine.lazyFrom builder size 0 none session).2) := by
  unfold lazyRows
  rw [if_neg (Nat.ne_of_gt positive)]
  rfl

theorem offset_within_word {size count number : Nat} (word : size ≤ greatestWord)
    (small : (count : Int) ≤ greatestSigned) (within : number ≤ count / size) :
    number * size + size ≤ greatestWord := by
  have least : count / size * size ≤ count := Nat.div_mul_le_self count size
  have offset : number * size ≤ count := Nat.le_trans (Nat.mul_le_mul_right size within) least
  cases number with
  | zero => rwa [Nat.zero_mul, Nat.zero_add]
  | succ number =>
      have one : 1 * size ≤ (number + 1) * size := Nat.mul_le_mul_right size (by omega)
      unfold greatestWord greatestSigned at *
      omega

/-- Reading in chunks and row by row send the same pages, one more than there are full ones, and
deliver all rows in order; and whatever the executor answers, nothing is sent after a failure or
after the reader has had enough. -/
theorem chunk_and_lazy_deliver_all (executor : Executor World) (engine : Engine (Logged World))
    (records : engine.executor = executor.logged) (calls : List Call) (builder : Builder)
    (reached : engine.query.applyAll calls = .ok builder)
    (typed : ∀ call ∈ calls, call.isRaw = false) (uncached : engine.Uncached builder) (size : Nat)
    (positive : 1 ≤ size) (word : size ≤ greatestWord) :
    ∃ page : Nat → Statement,
      (∀ offset, builder.statementOf (.page offset size) = .ok (page offset)) ∧
      (∀ rows : List Row, (rows.length : Int) ≤ greatestSigned → executor.Pages page size rows →
        (∀ number ≤ rows.length / size, number * size + size ≤ greatestWord) ∧
        ∃ slices : List (List Row),
          Cuts size (rows.map (engine.shown builder)) slices ∧
          ∀ session : Session (Logged World),
            (∀ (Notes : Type) (read : List Row → StateM Notes (Except QueryError Flow))
              (notes : Notes), (∀ slice notes, (read slice notes).1 = .ok .proceed) →
                (engine.chunk builder size read notes session).1 =
                    (.ok (), noted read notes slices) ∧
                  session.Sends (engine.chunk builder size read notes session).2
                    ((List.range (rows.length / size + 1)).map
                      (fun number => page (number * size)))) ∧
            ((engine.lazyRows builder size none).run session).1 =
                .ok (rows.map (engine.shown builder), none) ∧
            session.Sends ((engine.lazyRows builder size none).run session).2
              ((List.range (rows.length / size + 1)).map (fun number => page (number * size)))) ∧
      ∀ session : Session (Logged World),
        (∀ (Notes : Type) (read : List Row → StateM Notes (Except QueryError Flow))
          (notes : Notes),
            session.Walks (engine.chunk builder size read notes session).2
              (fun number => page (number * size))
              (fun log =>
                engine.Halts builder read (noted read notes (engine.brought builder log)))) ∧
        session.Walks ((engine.lazyRows builder size none).run session).2
          (fun number => page (number * size))
          (fun _ exchange => ∃ error, exchange.answer = .error error) := by
  obtain ⟨_, aligned, meant⟩ := Builder.reached_draft reached
  have unset := Clauses.raw_of_draft typed meant
  obtain ⟨page, made⟩ : ∃ page : Nat → Statement,
      ∀ offset, builder.statementOf (.page offset size) = .ok (page offset) :=
    ⟨_, fun offset => Builder.statementOf_eq aligned unset (.page offset size)⟩
  refine ⟨page, made, ?_, ?_⟩
  · intro rows small answers
    have count : 0 + rows.length / size = rows.length / size := Nat.zero_add _
    have least : rows.length / size * size ≤ rows.length := Nat.div_mul_le_self rows.length size
    have most : rows.length < (rows.length / size + 1) * size := by
      rw [Nat.mul_comm]
      exact Nat.lt_mul_div_succ rows.length positive
    refine ⟨fun number => offset_within_word word small,
      slices size (rows.length / size) (rows.map (engine.shown builder)), ?_, ?_⟩
    · exact slices_cut positive _ _ (by rwa [List.length_map]) (by rwa [List.length_map])
    intro session
    constructor
    · intro Notes read notes proceeds
      have walked := Engine.chunkFrom_delivers records uncached made answers positive small
        proceeds (rows.length / size) 0 count notes session
      rw [Nat.zero_mul, List.drop_zero, ← List.range_eq_range'] at walked
      rw [engine.chunk_of_positive builder positive]
      exact walked
    · have walked := Engine.lazyFrom_delivers records uncached made answers positive small
        (rows.length / size) 0 count session
      rw [Nat.zero_mul, List.drop_zero, ← List.range_eq_range'] at walked
      rw [engine.lazyRows_run builder positive, walked.1]
      exact ⟨rfl, walked.2⟩
  · intro session
    have numbered : (fun number => page (0 + number * size)) =
        fun number => page (number * size) :=
      funext fun number => by rw [Nat.zero_add]
    constructor
    · intro Notes read notes
      rw [engine.chunk_of_positive builder positive, ← numbered]
      exact Engine.chunkFrom_walks records uncached made read 0 notes session
    · rw [engine.lazyRows_run builder positive, ← numbered]
      exact Engine.lazyFrom_walks records uncached made 0 session

def clients : List Row :=
  [[("id", .number (.int 1))], [("id", .number (.int 2))], [("id", .number (.int 3))]]

def clientsExecutor : Executor Unit :=
  { query := fun sql _ outside =>
      (.ok { rows :=
        if sql = "SELECT * FROM \"clients\" WHERE \"age\" >= $1 LIMIT 2 OFFSET 2" then
          clients.drop 2
        else clients.take 2 }, outside)
    execute := fun _ _ outside => (.ok {}, outside) }

def clientsEngine : Engine (Logged Unit) :=
  { executor := clientsExecutor.logged, profile := Dialect.postgresql.profile }

def adultClients : List Call :=
  [.readFrom "clients", .compare .and "age" ">=" (.int 18)]

theorem chunk_and_lazy_deliver_clients :
    ∃ builder, clientsEngine.query.applyAll adultClients = .ok builder ∧
      ∃ page : Nat → Statement,
        (page 0).sql = "SELECT * FROM \"clients\" WHERE \"age\" >= $1 LIMIT 2 OFFSET 0" ∧
        (page 2).sql = "SELECT * FROM \"clients\" WHERE \"age\" >= $1 LIMIT 2 OFFSET 2" ∧
        ∀ session : Session (Logged Unit),
          ((clientsEngine.lazyRows builder 2 none).run session).1 = .ok (clients, none) ∧
          session.Sends ((clientsEngine.lazyRows builder 2 none).run session).2
            [page 0, page 2] := by
  have texts : (clientsEngine.query.applyAll adultClients >>= fun builder =>
      builder.statementOf (.page 0 2) >>= fun first =>
        (builder.statementOf (.page 2 2)).map (fun second => (first.sql, second.sql))).toOption =
      some ("SELECT * FROM \"clients\" WHERE \"age\" >= $1 LIMIT 2 OFFSET 0",
        "SELECT * FROM \"clients\" WHERE \"age\" >= $1 LIMIT 2 OFFSET 2") := by
    decide +kernel
  obtain ⟨builder, reached, shown⟩ := exists_of_bind_ok (ok_of_toOption texts)
  obtain ⟨page, made, delivers, _⟩ := chunk_and_lazy_deliver_all clientsExecutor clientsEngine
    rfl adultClients builder reached (by decide) (.inl rfl) 2 (by decide) (by decide)
  have read : (builder.statementOf (.page 0 2) >>= fun first =>
      (builder.statementOf (.page 2 2)).map (fun second => (first.sql, second.sql))) =
        .ok ((page 0).sql, (page 2).sql) := by
    rw [made, made]
    rfl
  obtain ⟨first, second⟩ := Prod.mk.inj (Except.ok.inj (read.symm.trans shown))
  refine ⟨builder, reached, page, first, second, ?_⟩
  have answers : clientsExecutor.Pages page 2 clients := by
    intro number within world
    obtain rfl | rfl : number = 0 ∨ number = 1 := by
      have : clients.length / 2 = 1 := rfl
      omega
    · refine ⟨_, rfl, ?_⟩
      rw [first]
      rfl
    · refine ⟨_, rfl, ?_⟩
      rw [second]
      rfl
  obtain ⟨_, slices, _, walks⟩ := delivers clients (by decide) answers
  intro session
  exact (walks session).2

end BoundQuery
