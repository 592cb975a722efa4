import BoundQuery.Value

/-!
Decryption of marked fields after a read. Only texts are decrypted, and one that cannot be decrypted
is left as it is stored.
-/

set_option autoImplicit false

namespace BoundQuery

/-- Turns a stored text into plain text, or says why it cannot. -/
abbrev Decryptor := String → Except String String

namespace Decryptor

def decryptValue (decrypt : Decryptor) : Json → Json
  | .string stored =>
      match decrypt stored with
      | .ok plain => .string plain
      | .error _ => .string stored
  | other => other

def decryptField (decrypt : Decryptor) (row : Row) (field : String) : Row :=
  row.map (fun member =>
    if member.1 == field then (member.1, decrypt.decryptValue member.2) else member)

def decryptRow (decrypt : Decryptor) (fields : List String) (row : Row) : Row :=
  fields.foldl decrypt.decryptField row

def decryptRows (decrypt : Decryptor) (fields : List String) (rows : List Row) : List Row :=
  rows.map (decrypt.decryptRow fields)

end Decryptor

end BoundQuery
