import BoundQuery.Digest.Sha256
import BoundQuery.Value

/-!
Keys of cached results. A key is derived from the statement's text and the JSON text of its values,
so equal statements share it.
-/

set_option autoImplicit false

namespace BoundQuery

/-- The text that is hashed: the values follow the SQL without a separator. -/
def keyPreimage (sql : String) (bindings : List Value) : List Char :=
  sql.toList ++ Value.encodeAll bindings

/-- Between 8 and 64 digits of the digest are kept. -/
def hashDigits (length : Nat) : Nat :=
  min 64 (max 8 length)

def generateKey (start sql : String) (bindings : List Value) (hashLength : Nat) : String :=
  let digest := Sha256.hexDigest (String.ofList (keyPreimage sql bindings))
  start ++ "query:" ++ String.ofList (digest.take (hashDigits hashLength))

end BoundQuery
