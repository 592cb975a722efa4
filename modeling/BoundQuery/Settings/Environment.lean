import BoundQuery.Decimal.Reading
import BoundQuery.Error
import BoundQuery.Text.Blank
import BoundQuery.Text.Letters
import BoundQuery.Word

/-!
Settings read from named variables. A variable that is set but cannot be read is refused, naming the
variable and what it held.
-/

set_option autoImplicit false

namespace BoundQuery

abbrev Environment := String → Option String

namespace Environment

def invalid (name held reason : String) : QueryError :=
  .invalidConfiguration (name ++ "=" ++ Text.quoted held ++ " is " ++ reason)

def readWith {α : Type} (environment : Environment) (name : String)
    (read : String → Except String α) : Except QueryError (Option α) :=
  match environment name with
  | none => .ok none
  | some held =>
      match read (Text.trim held) with
      | .ok value => .ok (some value)
      | .error fault => .error (invalid name held ("invalid: " ++ fault))

def readWord (environment : Environment) (name : String) : Except QueryError (Option Nat) :=
  environment.readWith name (fun text =>
    match Decimal.readNat greatestWord text.toList with
    | .ok number => .ok number
    | .error fault => .error fault.message)

def readPositive (environment : Environment) (name complaint : String) :
    Except QueryError (Option Nat) := do
  match ← environment.readWord name with
  | some 0 => .error (.invalidConfiguration (name ++ " must be " ++ complaint))
  | found => pure found

def flags : List (String × Bool) :=
  [("1", true), ("true", true), ("yes", true), ("on", true), ("0", false), ("false", false),
    ("no", false), ("off", false)]

def readFlag (environment : Environment) (name : String) : Except QueryError (Option Bool) :=
  match environment name with
  | none => .ok none
  | some held =>
      match flags.lookup (Text.lower (Text.trim held)) with
      | some flag => .ok (some flag)
      | none => .error (invalid name held "not a boolean")

end Environment

end BoundQuery
