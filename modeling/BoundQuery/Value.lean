import BoundQuery.Json.Reader
import BoundQuery.Json.Writer
import BoundQuery.Word

/-!
The values that a statement binds to its placeholders, and how they stand to JSON.
-/

set_option autoImplicit false

namespace BoundQuery

inductive Value where
  | null
  | bool (value : Bool)
  | int (value : Int)
  | float (value : Float)
  | string (value : String)
  | json (value : Json)

instance : Inhabited Value := ⟨.null⟩

/-- A row as the executor returns it: columns sorted by name. -/
abbrev Row := List (String × Json)

namespace Value

def isNull : Value → Bool
  | .null => true
  | _ => false

def string? : Value → Option String
  | .string text => some text
  | _ => none

/-- Integers past the signed range become the nearest floating-point number. -/
def ofJson : Json → Value
  | .null => .null
  | .bool value => .bool value
  | .number (.int value) =>
      if fitsSigned value then .int value
      else .float (Decimal.nearest (value < 0) value.natAbs 0)
  | .number (.float value) => .float value
  | .string text => .string text
  | other => .json other

/-- Numbers outside the reals have no JSON form and become null. -/
def toJson : Value → Json
  | .null => .null
  | .bool value => .bool value
  | .int value => .number (.int value)
  | .float value => if Decimal.isFinite value then .number (.float value) else .null
  | .string text => .string text
  | .json value => value

/-- Same kind and same payload; floats compare as numbers. -/
def beq : Value → Value → Bool
  | .null, .null => true
  | .bool left, .bool right => left == right
  | .int left, .int right => left == right
  | .float left, .float right => left == right
  | .string left, .string right => left == right
  | .json left, .json right => left.beq right
  | _, _ => false

def encode (value : Value) : String :=
  value.toJson.text

/-- Reads a value from JSON text; only arrays and objects stay JSON. -/
def decode? (text : String) : Option Value :=
  (Json.read text).toOption.map ofJson

def encodeAll (values : List Value) : List Char :=
  '[' :: Json.writeItems (values.map toJson)

end Value

/-- Named values in the order given, without a repeated name. -/
abbrev Record := List (String × Value)

/-- A name that is there keeps its place and takes the new value. -/
def Record.insert (record : Record) (name : String) (value : Value) : Record :=
  if record.any (fun cell => cell.1 == name) then
    record.map (fun cell => if cell.1 == name then (name, value) else cell)
  else record ++ [(name, value)]

def Record.ofCells (cells : List (String × Value)) : Record :=
  cells.foldl (fun record cell => record.insert cell.1 cell.2) []

def Record.columns (record : Record) : List String :=
  record.map Prod.fst

end BoundQuery
