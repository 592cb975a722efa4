import BoundQuery.Text.UnprintedTable

/-!
Texts inside messages: written between double quotes, with escapes for the quote, the backslash and
every character that would not show as itself.
-/

set_option autoImplicit false

namespace BoundQuery.Text

def hexDigits (code : Nat) : List Char :=
  Nat.toDigits 16 code

/-- Controls among the ASCII characters and the listed ones beyond are not shown as themselves. -/
def isUnprinted (char : Char) : Bool :=
  char.toNat < 0x20 || char.toNat == 0x7F ||
    unprintedRanges.any (fun range => range.1 ≤ char.toNat && char.toNat ≤ range.2)

def quotedChar (char : Char) : List Char :=
  if char == '"' then ['\\', '"']
  else if char == '\\' then ['\\', '\\']
  else if char == '\n' then ['\\', 'n']
  else if char == '\r' then ['\\', 'r']
  else if char == '\t' then ['\\', 't']
  else if char.toNat == 0 then ['\\', '0']
  else if isUnprinted char then
    ['\\', 'u', '\x7b'] ++ hexDigits char.toNat ++ ['\x7d']
  else [char]

def quoted (text : String) : String :=
  String.ofList ('"' :: text.toList.flatMap quotedChar ++ ['"'])

end BoundQuery.Text
