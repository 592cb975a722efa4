import BoundQuery.Error
import BoundQuery.Text.Blank
import BoundQuery.Text.Letters

/-!
The comparison operators of a statement.
-/

set_option autoImplicit false

namespace BoundQuery

inductive Operator where
  | equal
  | notEqual
  | different
  | less
  | lessOrEqual
  | greater
  | greaterOrEqual
  | like
  | notLike
  | ilike
deriving DecidableEq

namespace Operator

def text : Operator → String
  | equal => "="
  | notEqual => "!="
  | different => "<>"
  | less => "<"
  | lessOrEqual => "<="
  | greater => ">"
  | greaterOrEqual => ">="
  | like => "LIKE"
  | notLike => "NOT LIKE"
  | ilike => "ILIKE"

def all : List Operator :=
  [equal, notEqual, different, less, lessOrEqual, greater, greaterOrEqual, like, notLike, ilike]

/-- Letter case and the amount of white space do not matter. -/
def read (written : String) : Except QueryError Operator :=
  let words := Text.words written.toList
  let canonical := Text.upperChars ([' '].intercalate words)
  match all.find? (fun operator => operator.text.toList == canonical) with
  | some operator => .ok operator
  | none => .error (.invalidOperator written)

end Operator

end BoundQuery
