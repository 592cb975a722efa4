import BoundQuery.Cache.Memory
import BoundQuery.Engine.Executor

/-!
A world for trying sessions without a database: a clock that is set by hand, answers prepared in
advance, a record of the statements received, and a store whose operations can be made to fail.
-/

set_option autoImplicit false

namespace BoundQuery

/-- A prepared answer serves a query and an execution alike, each taking what concerns it. -/
inductive Reply where
  | answer (query : QueryOutput) (execution : ExecOutput)
  | refusal (error : QueryError)

inductive Received where
  | query (sql : String) (bindings : List Value)
  | execute (sql : String) (bindings : List Value)

inductive StoreOperation where
  | get
  | set
  | delete
  | keys
  | clear
  | holds
deriving DecidableEq

/-- The clock counts milliseconds; statements are recorded latest first. -/
structure Rehearsal where
  clock : Nat := 0
  replies : List Reply := []
  received : List Received := []
  store : MemoryCache := {}
  failing : List StoreOperation := []

namespace Rehearsal

def advance (rehearsal : Rehearsal) (milliseconds : Nat) : Rehearsal :=
  { rehearsal with clock := rehearsal.clock + milliseconds }

/-- The next answer; where none is left, one with no rows. -/
def nextReply (rehearsal : Rehearsal) : Reply × Rehearsal :=
  match rehearsal.replies with
  | [] => (.answer {} {}, rehearsal)
  | reply :: rest => (reply, { rehearsal with replies := rest })

def record (rehearsal : Rehearsal) (statement : Received) : Rehearsal :=
  { rehearsal with received := statement :: rehearsal.received }

/-- A query takes a millisecond before it is answered. -/
def executor : Executor Rehearsal :=
  { query := fun sql bindings rehearsal =>
      let next := ((rehearsal.advance 1).record (.query sql bindings)).nextReply
      match next.1 with
      | .answer output _ => (.ok output, next.2)
      | .refusal error => (.error error, next.2)
    execute := fun sql bindings rehearsal =>
      let next := (rehearsal.record (.execute sql bindings)).nextReply
      match next.1 with
      | .answer _ output => (.ok output, next.2)
      | .refusal error => (.error error, next.2) }

def unlessFailing {α : Type} (operation : StoreOperation)
    (effect : StateM Rehearsal (Except CacheError α)) : StateM Rehearsal (Except CacheError α) :=
  fun rehearsal =>
    if rehearsal.failing.contains operation then (.error (.backend "down"), rehearsal)
    else effect rehearsal

def memory : CacheAdapter Rehearsal :=
  MemoryCache.adapter Rehearsal.clock Rehearsal.store
    (fun store rehearsal => { rehearsal with store := store })

def scanningAdapter : CacheAdapter Rehearsal :=
  { get := fun key => unlessFailing .get (memory.get key)
    set := fun key value ttl => unlessFailing .set (memory.set key value ttl)
    delete := fun key => unlessFailing .delete (memory.delete key)
    keys := fun pattern => unlessFailing .keys (memory.keys pattern)
    clear := unlessFailing .clear memory.clear
    holds := fun key => unlessFailing .holds (memory.holds key)
    scansPatterns := true
    name := memory.name }

/-- The store without pattern scans, which looks values up to tell whether they are there. -/
def plainAdapter : CacheAdapter Rehearsal :=
  { get := scanningAdapter.get
    set := scanningAdapter.set
    delete := scanningAdapter.delete
    keys := scanningAdapter.keys
    clear := scanningAdapter.clear }

end Rehearsal

end BoundQuery
