import BoundQuery.Proofs.Request

/-!
A reading operation as a program of requests: it asks, and goes on with what it is answered. An
engine runs such a program one read after another, and each operation of the engine is the run of
its program.
-/

set_option autoImplicit false

namespace BoundQuery

inductive Reading (Result : Type) where
  | done (result : Result)
  | ask (request : Request) (next : Except QueryError QueryOutput → Reading Result)

namespace Reading

variable {Result : Type}

def map {Other : Type} (change : Result → Other) : Reading Result → Reading Other
  | done result => done (change result)
  | ask request next => ask request (fun answer => map change (next answer))

/-- The result when every request is answered by a function. -/
def resolve (reply : Request → Except QueryError QueryOutput) : Reading Result → Result
  | done result => result
  | ask request next => resolve reply (next (reply request))

def settle (request : Request) (decide : QueryOutput → Except QueryError Result) :
    Reading (Except QueryError Result) :=
  ask request (fun answer => done (answer >>= decide))

def answer (request : Request) (change : QueryOutput → Result) :
    Reading (Except QueryError Result) :=
  settle request (fun output => .ok (change output))

def chunkFrom {Notes : Type} (size : Nat)
    (read : List Row → StateM Notes (Except QueryError Flow)) (offset : Nat) (notes : Notes) :
    Reading (Except QueryError Unit × Notes) :=
  ask (.page offset size) fun answer =>
    match answer.map QueryOutput.rows with
    | .error error => done (.error error, notes)
    | .ok rows =>
        if rows.isEmpty then done (.ok (), notes)
        else
          let reading := read rows notes
          match reading.1 with
          | .error error => done (.error error, reading.2)
          | .ok flow =>
              if flow = .stop || rows.length < size then done (.ok (), reading.2)
              else if _ : 0 < size ∧ offset + size ≤ greatestWord then
                chunkFrom size read (offset + size) reading.2
              else done (.error (.internal "page offset out of range"), reading.2)
termination_by greatestWord - offset
decreasing_by omega

def lazyFrom (size offset : Nat) (wanted : Option Nat) :
    Reading (List Row × Option QueryError) :=
  if wanted = some 0 then done ([], none)
  else
    ask (.page offset size) fun answer =>
      match answer.map QueryOutput.rows with
      | .error error => done ([], some error)
      | .ok rows =>
          if _ : rows.length = size ∧ 0 < size ∧ offset + size ≤ greatestWord then
            (lazyFrom size (offset + size) (Engine.stillWanted wanted rows.length)).map
              (fun others => (Engine.takeWanted wanted rows ++ others.1, others.2))
          else done (Engine.takeWanted wanted rows, none)
termination_by greatestWord - offset
decreasing_by omega

def paginate (defaultPerPage : Nat) (page perPage : Int) :
    Reading (Except QueryError Paginated) :=
  ask .count fun outcome =>
    match outcome.map (fun output => (countOf? (Engine.aggregateOf output.rows)).getD 0) with
    | .error error => done (.error error)
    | .ok total =>
        let size := positiveOr (max 1 defaultPerPage) perPage
        let info := PageInfo.make (positiveOr 1 page) size total
        if info.first = 0 then done (.ok ⟨[], info⟩)
        else answer (.page info.offset size) (fun output => ⟨output.rows, info⟩)

end Reading

/-- An operation with what it gives back. -/
inductive Terminal : Type → Type 1 where
  | get : Terminal (Except QueryError (List Row))
  | first : Terminal (Except QueryError (Option Row))
  | firstOrFail : Terminal (Except QueryError Row)
  | sole : Terminal (Except QueryError Row)
  | count : Terminal (Except QueryError Nat)
  | sum (column : String) : Terminal (Except QueryError (Option Float))
  | average (column : String) : Terminal (Except QueryError (Option Float))
  | minimum (column : String) : Terminal (Except QueryError (Option Json))
  | maximum (column : String) : Terminal (Except QueryError (Option Json))
  | hasRows : Terminal (Except QueryError Bool)
  | pluck (column : String) : Terminal (Except QueryError (List Json))
  | pluckPairs (value key : String) : Terminal (Except QueryError (List (String × Json)))
  | paginate (page perPage : Int) : Terminal (Except QueryError Paginated)
  | cursorPaginate (column : String) (cursor : Option Value) (limit : Int) :
      Terminal (Except QueryError CursorPage)
  | chunk {Notes : Type} (size : Nat) (read : List Row → StateM Notes (Except QueryError Flow))
      (notes : Notes) : Terminal (Except QueryError Unit × Notes)
  | lazyRows (size : Nat) (wanted : Option Nat) :
      Terminal (Except QueryError (List Row × Option QueryError))

namespace Terminal

variable {World : Type}

def run {Result : Type} (engine : Engine World) (builder : Builder) :
    Terminal Result → StateM (Session World) Result
  | get => (engine.get builder).run
  | first => (engine.first builder).run
  | firstOrFail => (engine.firstOrFail builder).run
  | sole => (engine.sole builder).run
  | count => (engine.count builder).run
  | sum column => (engine.sum builder column).run
  | average column => (engine.average builder column).run
  | minimum column => (engine.minimum builder column).run
  | maximum column => (engine.maximum builder column).run
  | hasRows => (engine.hasRows builder).run
  | pluck column => (engine.pluck builder column).run
  | pluckPairs value key => (engine.pluckPairs builder value key).run
  | paginate page perPage => (engine.paginate builder page perPage).run
  | cursorPaginate column cursor limit => (engine.cursorPaginate builder column cursor limit).run
  | chunk size read notes => engine.chunk builder size read notes
  | lazyRows size wanted => (engine.lazyRows builder size wanted).run

def onlyRow (label : String) : List Row → Except QueryError Row
  | [] => .error ((QueryError.notFound label).during "sole")
  | [row] => .ok row
  | _ => .error ((QueryError.notUnique label).during "sole")

def someRow (label : String) : Option Row → Except QueryError Row
  | some row => .ok row
  | none => .error ((QueryError.notFound label).during "first_or_fail")

def program {Result : Type} (config : EngineConfig) (label : String) :
    Terminal Result → Reading Result
  | get => .answer .whole QueryOutput.rows
  | first => .answer (.limited 1) (fun output => output.rows.head?)
  | firstOrFail => .settle (.limited 1) (fun output => someRow label output.rows.head?)
  | sole => .settle (.limited 2) (fun output => onlyRow label output.rows)
  | count => .answer .count (fun output => (countOf? (Engine.aggregateOf output.rows)).getD 0)
  | sum column => .answer (.aggregate .sum column) (fun output =>
      floatOf? (Engine.aggregateOf output.rows))
  | average column => .answer (.aggregate .average column) (fun output =>
      floatOf? (Engine.aggregateOf output.rows))
  | minimum column => .answer (.aggregate .minimum column) (fun output =>
      nonNull? (Engine.aggregateOf output.rows))
  | maximum column => .answer (.aggregate .maximum column) (fun output =>
      nonNull? (Engine.aggregateOf output.rows))
  | hasRows => .answer .presence (fun output => !output.rows.isEmpty)
  | pluck column => .answer (.column column) (fun output =>
      output.rows.map (fun row => (row.lookup (resultKey column)).getD .null))
  | pluckPairs value key => .answer (.pair value key) (fun output =>
      keyedPairs (resultKey value) (resultKey key) output.rows)
  | paginate page perPage => .paginate config.defaultPerPage page perPage
  | cursorPaginate column cursor limit =>
      if limit < 1 then
        .done (.error (.invalidArgument "limit"
          ("limit must be at least 1, got " ++ String.ofList (writeInt limit))))
      else .answer (.cursor column cursor limit.toNat) (Engine.cursorPage column limit.toNat)
  | chunk size read notes =>
      if size = 0 then
        .done (.error (.invalidArgument "size" "chunk size must be at least 1"), notes)
      else .chunkFrom size read 0 notes
  | lazyRows size wanted =>
      if size = 0 then
        .done (.error (.invalidArgument "size" "page size must be at least 1"))
      else (Reading.lazyFrom size 0 wanted).map .ok

end Terminal

namespace Action

variable {World Item Result : Type} {first : Action World Item} {before after : Session World}

theorem run_map (change : Item → Result) (action : Action World Item) (session : Session World) :
    (change <$> action).run session =
      ((action.run session).1.map change, (action.run session).2) := by
  rw [ExceptT.run_map]
  rfl

theorem run_bind_ok {item : Item} (done : first.run before = (.ok item, after))
    (next : Item → Action World Result) : (first >>= next).run before = (next item).run after := by
  rw [ExceptT.run_bind]
  simp only [bind, StateT.bind]
  rw [done]

theorem run_bind_error {error : QueryError} (done : first.run before = (.error error, after))
    (next : Item → Action World Result) : (first >>= next).run before = (.error error, after) := by
  rw [ExceptT.run_bind]
  simp only [bind, StateT.bind]
  rw [done]
  rfl

theorem run_bind_pure (change : Item → Result) :
    (do let item ← first; pure (change item) : Action World Result).run before =
      ((first.run before).1.map change, (first.run before).2) := by
  cases done : (first.run before).1 with
  | error error => exact run_bind_error (Prod.ext done rfl) _
  | ok item => exact run_bind_ok (Prod.ext done rfl) _

theorem run_bind_lift (effect : StateM (Session World) Item) (next : Item → Action World Result) :
    ((liftM effect : Action World Item) >>= next).run before =
      (next (effect before).1).run (effect before).2 :=
  rfl

end Action

/-! ### Running a program -/

namespace Engine

variable {World : Type} (engine : Engine World) (builder : Builder)

def perform {Result : Type} : Reading Result → StateM (Session World) Result
  | .done result => pure result
  | .ask request next => do
      let answer ← (engine.read builder request).run
      perform (next answer)

/-- The requests that a program makes, with what it is answered. -/
def trace {Result : Type} :
    Reading Result → Session World → List (Request × Except QueryError QueryOutput)
  | .done _, _ => []
  | .ask request next, session =>
      let reply := (engine.read builder request).run session
      (request, reply.1) :: trace (next reply.1) reply.2

theorem perform_map {Result Other : Type} (change : Result → Other) (program : Reading Result) :
    engine.perform builder (program.map change) =
      change <$> engine.perform builder program := by
  induction program with
  | done result => rfl
  | ask request next ih =>
      simp only [Reading.map, perform, ih, map_bind]

theorem perform_settle {Result : Type} (request : Request)
    (decide : QueryOutput → Except QueryError Result) :
    engine.perform builder (.settle request decide) =
      (do let output ← engine.read builder request
          liftM (decide output) : Action World Result).run := by
  simp only [Reading.settle, perform, ExceptT.run_bind]
  refine congrArg _ (funext fun answer => ?_)
  cases answer with
  | error error => rfl
  | ok output => rfl

theorem perform_answer {Result : Type} (request : Request) (change : QueryOutput → Result) :
    engine.perform builder (.answer request change) =
      (change <$> engine.read builder request).run := by
  rw [Reading.answer, perform_settle]
  rfl

theorem chunkFrom_eq_perform {Notes : Type} (size : Nat)
    (read : List Row → StateM Notes (Except QueryError Flow)) (offset : Nat) (notes : Notes) :
    engine.chunkFrom builder size read offset notes =
      engine.perform builder (.chunkFrom size read offset notes) := by
  induction offset, notes using Reading.chunkFrom.induct size read with
  | case1 offset notes ih =>
      unfold chunkFrom Reading.chunkFrom
      simp only [perform, fetchPage_eq_read, ExceptT.run_map, bind_map_left]
      refine congrArg _ (funext fun outcome => ?_)
      cases outcome.map QueryOutput.rows with
      | error error => rfl
      | ok rows =>
          by_cases empty : rows.isEmpty = true
          · simp only [empty, if_true]
            rfl
          · simp only [empty]
            cases (read rows notes).1 with
            | error error => rfl
            | ok flow =>
                by_cases last : (decide (flow = Flow.stop) || decide (rows.length < size)) = true
                · simp only [last, if_true]
                  rfl
                · simp only [last]
                  by_cases further : 0 < size ∧ offset + size ≤ greatestWord
                  · simp only [further, and_self, dif_pos]
                    exact ih rows further
                  · simp only [further, dif_neg, not_false_eq_true]
                    rfl

theorem lazyFrom_eq_perform (size offset : Nat) (wanted : Option Nat) :
    engine.lazyFrom builder size offset wanted =
      engine.perform builder (.lazyFrom size offset wanted) := by
  induction offset, wanted using Reading.lazyFrom.induct size with
  | case1 offset =>
      unfold lazyFrom Reading.lazyFrom
      rfl
  | case2 offset wanted some ih =>
      unfold lazyFrom Reading.lazyFrom
      simp only [some, if_false, perform, fetchPage_eq_read, ExceptT.run_map, bind_map_left]
      refine congrArg _ (funext fun outcome => ?_)
      cases outcome.map QueryOutput.rows with
      | error error => rfl
      | ok rows =>
          by_cases further : rows.length = size ∧ 0 < size ∧ offset + size ≤ greatestWord
          · simp only [further, and_self, dif_pos, perform_map]
            have others := ih rows further
            rw [further.1] at others
            rw [others]
            rfl
          · simp only [further, dif_neg, not_false_eq_true]
            rfl

theorem aggregate_eq_perform {Result : Type} (function : Aggregate) (column : String)
    (change : Json → Result) :
    (do pure (change (← engine.aggregateColumn builder function.text column)) :
        Action World Result).run =
      engine.perform builder (.answer (.aggregate function column)
        (fun output => change (aggregateOf output.rows))) := by
  rw [perform_answer, aggregateColumn_eq_read]
  simp only [map_eq_pure_bind, bind_assoc, pure_bind]

/-- Every reading operation of an engine is the run of its program. -/
theorem run_eq_perform {Result : Type} (terminal : Terminal Result) :
    terminal.run engine builder =
      engine.perform builder (terminal.program engine.config (tableLabel builder)) := by
  cases terminal with
  | get =>
      simp only [Terminal.run, Terminal.program, perform_answer, get_eq_read]
  | first =>
      simp only [Terminal.run, Terminal.program, perform_answer, first_eq_read]
  | firstOrFail =>
      simp only [Terminal.run, Terminal.program, perform_settle, firstOrFail, first_eq_read,
        bind_map_left]
      refine congrArg ExceptT.run (congrArg _ (funext fun output => ?_))
      cases output.rows.head? with
      | none => rfl
      | some row => rfl
  | sole =>
      simp only [Terminal.run, Terminal.program, perform_settle, sole_eq_read]
      refine congrArg ExceptT.run (congrArg _ (funext fun output => ?_))
      match output.rows with
      | [] => rfl
      | [row] => rfl
      | first :: second :: rest => rfl
  | count =>
      simp only [Terminal.run, Terminal.program, perform_answer, count_eq_read]
  | sum column => exact aggregate_eq_perform engine builder .sum column _
  | average column => exact aggregate_eq_perform engine builder .average column _
  | minimum column => exact aggregate_eq_perform engine builder .minimum column _
  | maximum column => exact aggregate_eq_perform engine builder .maximum column _
  | hasRows =>
      simp only [Terminal.run, Terminal.program, perform_answer, hasRows_eq_read]
  | pluck column =>
      simp only [Terminal.run, Terminal.program, perform_answer, pluck_eq_read]
  | pluckPairs value key =>
      simp only [Terminal.run, Terminal.program, perform_answer, pluckPairs_eq_read]
  | paginate page perPage =>
      simp only [Terminal.run, Terminal.program, Reading.paginate, perform, paginate,
        count_eq_read, bind_map_left, ExceptT.run_bind]
      refine congrArg _ (funext fun outcome => ?_)
      cases outcome with
      | error error => rfl
      | ok output =>
          let total := (countOf? (aggregateOf output.rows)).getD 0
          let size := positiveOr (max 1 engine.config.defaultPerPage) perPage
          by_cases empty : (PageInfo.make (positiveOr 1 page) size total).first = 0
          · simp only [Except.map, size, total] at empty ⊢
            rw [if_pos empty, if_pos empty]
            rfl
          · simp only [Except.map, size, total] at empty ⊢
            rw [if_neg empty, if_neg empty, perform_answer, fetchPage_eq_read]
            simp only [map_eq_pure_bind, bind_assoc, pure_bind]
  | cursorPaginate column cursor limit =>
      by_cases less : limit < 1
      · simp only [Terminal.run, Terminal.program, cursorPaginate, less, if_true]
        rfl
      · have positive : 1 ≤ limit := by omega
        simp only [Terminal.run, Terminal.program, less, if_false, perform_answer,
          cursorPaginate_eq_read engine builder column cursor limit positive]
  | chunk size read notes =>
      by_cases zero : size = 0
      · simp only [Terminal.run, Terminal.program, chunk, zero, if_true]
        rfl
      · simp only [Terminal.run, Terminal.program, chunk, zero, if_false]
        exact chunkFrom_eq_perform engine builder size read 0 notes
  | lazyRows size wanted =>
      by_cases zero : size = 0
      · simp only [Terminal.run, Terminal.program, lazyRows, zero, if_true]
        rfl
      · simp only [Terminal.run, Terminal.program, lazyRows, zero, if_false, perform_map,
          lazyFrom_eq_perform]
        rfl

end Engine

end BoundQuery
