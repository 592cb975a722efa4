import BoundQuery.Decimal.Format
import BoundQuery.Json.Basic
import BoundQuery.Text.Quoted

/-!
JSON values as compact text: no spaces, short escapes where there are any, and floating-point
numbers with their shortest digits.
-/

set_option autoImplicit false

namespace BoundQuery

/-- Characters from the space on stand for themselves, the quote and the backslash apart. -/
def Json.writeChar (char : Char) : List Char :=
  if char == '"' then ['\\', '"']
  else if char == '\\' then ['\\', '\\']
  else if char == '\n' then ['\\', 'n']
  else if char == '\r' then ['\\', 'r']
  else if char == '\t' then ['\\', 't']
  else if char.toNat == 8 then ['\\', 'b']
  else if char.toNat == 12 then ['\\', 'f']
  else if char.toNat < 0x20 then
    ['\\', 'u', '0', '0'] ++ Text.hexDigits (char.toNat / 16) ++ Text.hexDigits (char.toNat % 16)
  else [char]

def Json.writeString (text : String) : List Char :=
  '"' :: text.toList.flatMap Json.writeChar ++ ['"']

def writeInt (value : Int) : List Char :=
  Decimal.signOf (value < 0) ++ Nat.toDigits 10 value.natAbs

/-- Numbers outside the reals have no text of their own. -/
def writeFloat (value : Float) : List Char :=
  match Decimal.decode value with
  | .finite binary => Decimal.dataLayout.write binary
  | _ => "null".toList

def Number.write : Number → List Char
  | .int value => writeInt value
  | .float value => writeFloat value

mutual

def Json.write : Json → List Char
  | .null => "null".toList
  | .bool true => "true".toList
  | .bool false => "false".toList
  | .number value => value.write
  | .string text => Json.writeString text
  | .array items => '[' :: Json.writeItems items
  | .object members => '\x7b' :: Json.writeMembers members

def Json.writeItems : List Json → List Char
  | [] => [']']
  | [item] => Json.write item ++ [']']
  | item :: rest => Json.write item ++ ',' :: Json.writeItems rest

def Json.writeMembers : List (String × Json) → List Char
  | [] => ['\x7d']
  | [(name, value)] => Json.writeString name ++ ':' :: Json.write value ++ ['\x7d']
  | (name, value) :: rest =>
      Json.writeString name ++ ':' :: Json.write value ++ ',' :: Json.writeMembers rest

end

def Json.text (value : Json) : String :=
  String.ofList value.write

end BoundQuery
