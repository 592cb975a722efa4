/-!
JSON values. Integers and floating-point numbers are kept apart, and the members of an object are
sorted by name.
-/

set_option autoImplicit false

namespace BoundQuery

inductive Number where
  | int (value : Int)
  | float (value : Float)

inductive Json where
  | null
  | bool (value : Bool)
  | number (value : Number)
  | string (value : String)
  | array (items : List Json)
  | object (members : List (String × Json))

instance : Inhabited Json := ⟨.null⟩

/-- Floats compare as numbers, so not-a-number differs from itself and the two zeros are equal. -/
def Number.beq : Number → Number → Bool
  | .int left, .int right => left == right
  | .float left, .float right => left == right
  | _, _ => false

mutual

def Json.beq : Json → Json → Bool
  | .null, .null => true
  | .bool left, .bool right => left == right
  | .number left, .number right => left.beq right
  | .string left, .string right => left == right
  | .array left, .array right => Json.beqItems left right
  | .object left, .object right => Json.beqMembers left right
  | _, _ => false

def Json.beqItems : List Json → List Json → Bool
  | [], [] => true
  | left :: lefts, right :: rights => Json.beq left right && Json.beqItems lefts rights
  | _, _ => false

def Json.beqMembers : List (String × Json) → List (String × Json) → Bool
  | [], [] => true
  | (name, left) :: lefts, (other, right) :: rights =>
      name == other && Json.beq left right && Json.beqMembers lefts rights
  | _, _ => false

end

/-- Names compare character by character, by code point. A repeated name takes the later value. -/
def insertMember (name : String) (value : Json) :
    List (String × Json) → List (String × Json)
  | [] => [(name, value)]
  | (other, held) :: rest =>
      if name < other then (name, value) :: (other, held) :: rest
      else if name == other then (name, value) :: rest
      else (other, held) :: insertMember name value rest

def sortMembers (members : List (String × Json)) : List (String × Json) :=
  members.foldl (fun sorted member => insertMember member.1 member.2 sorted) []

def Json.ofMembers (members : List (String × Json)) : Json :=
  .object (sortMembers members)

def Json.member? (name : String) : Json → Option Json
  | .object members => members.lookup name
  | _ => none

end BoundQuery
