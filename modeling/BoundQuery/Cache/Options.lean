import BoundQuery.Error
import BoundQuery.Text.Blank

/-!
What a caller asks of the cache for one query. Lifetimes are in milliseconds.
-/

set_option autoImplicit false

namespace BoundQuery

structure CacheOptions where
  ttl : Option Nat := none
  key : Option String := none
  tags : List String := []

inductive CacheOptionFault where
  | zeroLifetime
  | emptyKey
  | emptyTag

def CacheOptionFault.message : CacheOptionFault → String
  | .zeroLifetime => "TTL must be greater than zero"
  | .emptyKey => "cache key must not be empty"
  | .emptyTag => "cache tags must not be empty"

def isBlankText (text : String) : Bool :=
  text.toList.all Text.isBlank

namespace CacheOptions

def fault? (options : CacheOptions) : Option CacheOptionFault :=
  if options.ttl == some 0 then some .zeroLifetime
  else if options.key.any isBlankText then some .emptyKey
  else if options.tags.any isBlankText then some .emptyTag
  else none

def check (options : CacheOptions) : Except QueryError Unit :=
  match options.fault? with
  | some fault => .error (.invalidCacheOptions fault.message)
  | none => .ok ()

end CacheOptions

/-- The caching that a builder carries. A lifetime that is not given is the cache's default; a key
that is not given is derived from the statement. -/
structure CacheDirective where
  enabled : Bool := false
  ttl : Option Nat := none
  key : Option String := none
  tags : List String := []

end BoundQuery
