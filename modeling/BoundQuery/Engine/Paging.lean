import BoundQuery.Engine.Read
import BoundQuery.Page

/-!
Results by numbered pages, by cursor, in chunks and row by row.
-/

set_option autoImplicit false

namespace BoundQuery

structure Paginated where
  data : List Row
  pagination : PageInfo

/-- The next cursor is the last row's value in the cursor column. -/
structure CursorPage where
  data : List Row
  hasMore : Bool
  nextCursor : Option Value

inductive Flow where
  | proceed
  | stop
deriving DecidableEq

def positiveOr (standIn : Nat) (number : Int) : Nat :=
  if 1 ≤ number then number.toNat else standIn

namespace Builder

/-- The clauses of the rows behind a cursor, with one row more than the page holds. -/
def cursorClauses (builder : Builder) (column : String) (cursor : Option Value) (limit : Nat) :
    Clauses :=
  let narrowed :=
    match cursor with
    | none => builder.clauses
    | some value =>
        builder.clauses.groupWheres.addWhere .and [.sql (column ++ " > "), .slot] [value]
  { narrowed with
    orders := [⟨column, .ascending, false⟩]
    limit := some (limit + 1)
    offset := none }

end Builder

namespace Engine

variable {World : Type}

/-- Rows are fetched only when the page has any. -/
def paginate (engine : Engine World) (builder : Builder) (page perPage : Int) :
    Action World Paginated := do
  let size := positiveOr (max 1 engine.config.defaultPerPage) perPage
  let total ← engine.count builder
  let info := PageInfo.make (positiveOr 1 page) size total
  let data ← if info.first = 0 then pure [] else engine.fetchPage builder info.offset size
  pure ⟨data, info⟩

def cursorPaginate (engine : Engine World) (builder : Builder) (column : String)
    (cursor : Option Value) (limit : Int) : Action World CursorPage := do
  if limit < 1 then
    throw (.invalidArgument "limit"
      ("limit must be at least 1, got " ++ String.ofList (writeInt limit)))
  else
    let rendered ← builder.profile.column column
    let rows ← engine.fetchClauses builder (builder.cursorClauses rendered cursor limit.toNat)
    let data := rows.take limit.toNat
    let hasMore := limit.toNat < rows.length
    let next := data.getLast?.bind (fun row => row.lookup (resultKey column))
    pure ⟨data, hasMore, if hasMore then next.map Value.ofJson else none⟩

/-- Hands over page after page from an offset on, until one is short, the reader stops or something
fails. The reader keeps notes; offsets end where 64 bits do. -/
def chunkFrom {Notes : Type} (engine : Engine World) (builder : Builder) (size : Nat)
    (read : List Row → StateM Notes (Except QueryError Flow)) (offset : Nat) (notes : Notes) :
    StateM (Session World) (Except QueryError Unit × Notes) := do
  match ← (engine.fetchPage builder offset size).run with
  | .error error => pure (.error error, notes)
  | .ok rows =>
      if rows.isEmpty then pure (.ok (), notes)
      else
        let reading := read rows notes
        match reading.1 with
        | .error error => pure (.error error, reading.2)
        | .ok flow =>
            if flow = .stop || rows.length < size then pure (.ok (), reading.2)
            else if _ : 0 < size ∧ offset + size ≤ greatestWord then
              engine.chunkFrom builder size read (offset + size) reading.2
            else pure (.error (.internal "page offset out of range"), reading.2)
termination_by greatestWord - offset
decreasing_by omega

def chunk {Notes : Type} (engine : Engine World) (builder : Builder) (size : Nat)
    (read : List Row → StateM Notes (Except QueryError Flow)) (notes : Notes) :
    StateM (Session World) (Except QueryError Unit × Notes) :=
  if size = 0 then
    pure (.error (.invalidArgument "size" "chunk size must be at least 1"), notes)
  else engine.chunkFrom builder size read 0 notes

/-- How many rows are still wanted; `none` for all there are. -/
def stillWanted (wanted : Option Nat) (delivered : Nat) : Option Nat :=
  wanted.map (· - delivered)

def takeWanted (wanted : Option Nat) (rows : List Row) : List Row :=
  match wanted with
  | none => rows
  | some number => rows.take number

/-- The rows from an offset on, as many as are wanted, and the error that ended them early. A page
is fetched only when a row of it is wanted. -/
def lazyFrom (engine : Engine World) (builder : Builder) (size : Nat) (offset : Nat)
    (wanted : Option Nat) : StateM (Session World) (List Row × Option QueryError) := do
  if wanted = some 0 then pure ([], none)
  else
    match ← (engine.fetchPage builder offset size).run with
    | .error error => pure ([], some error)
    | .ok rows =>
        if _ : rows.length = size ∧ 0 < size ∧ offset + size ≤ greatestWord then do
          let others ←
            engine.lazyFrom builder size (offset + size) (stillWanted wanted rows.length)
          pure (takeWanted wanted rows ++ others.1, others.2)
        else pure (takeWanted wanted rows, none)
termination_by greatestWord - offset
decreasing_by omega

def lazyRows (engine : Engine World) (builder : Builder) (size : Nat) (wanted : Option Nat) :
    Action World (List Row × Option QueryError) := do
  if size = 0 then throw (.invalidArgument "size" "page size must be at least 1")
  else engine.lazyFrom builder size 0 wanted

end Engine

end BoundQuery
