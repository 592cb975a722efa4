import BoundQuery.Cache.Pattern
import BoundQuery.Json.Basic

/-!
Where cached results are kept. A store lives in some world, and any of its operations may fail.
-/

set_option autoImplicit false

namespace BoundQuery

inductive CacheError where
  | serialization (reason : String)
  | deserialization (reason : String)
  | connection (reason : String)
  | timedOut
  | backend (reason : String)
  | unsupported (operation : String)

def CacheError.message : CacheError → String
  | .serialization reason => "serialization error: " ++ reason
  | .deserialization reason => "deserialization error: " ++ reason
  | .connection reason => "connection error: " ++ reason
  | .timedOut => "operation timed out"
  | .backend reason => "backend error: " ++ reason
  | .unsupported operation => "unsupported operation: " ++ operation

/-- A store that cannot tell whether it holds a key is asked for the value. Lifetimes are in
milliseconds. -/
structure CacheAdapter (World : Type) where
  get : String → StateM World (Except CacheError (Option Json))
  set : String → Json → Option Nat → StateM World (Except CacheError Unit)
  delete : String → StateM World (Except CacheError Bool)
  keys : Option KeyPattern → StateM World (Except CacheError (List String))
  clear : StateM World (Except CacheError Unit)
  holds : String → StateM World (Except CacheError Bool) :=
    fun key => do pure ((← get key).map Option.isSome)
  scansPatterns : Bool := false
  name : String := "cache"

end BoundQuery
