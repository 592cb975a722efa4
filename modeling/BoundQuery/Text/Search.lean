/-!
Looking for one text inside another, and the ASCII rules for letters and digits.
-/

set_option autoImplicit false

namespace BoundQuery.Text

def occursIn (needle : List Char) : List Char → Bool
  | [] => needle.isEmpty
  | char :: rest => needle.isPrefixOf (char :: rest) || occursIn needle rest

/-- What follows the given start, when the text has it. -/
def after? : List Char → List Char → Option (List Char)
  | [], chars => some chars
  | _ :: _, [] => none
  | lead :: start, char :: rest => if lead == char then after? start rest else none

/-- Equality that takes the 26 ASCII letters without case. -/
def equalsIgnoringCase (left right : List Char) : Bool :=
  left.map Char.toLower == right.map Char.toLower

def startsIgnoringCase (start chars : List Char) : Bool :=
  equalsIgnoringCase start (chars.take start.length)

/-- What stands after the last occurrence of a character, or the whole text. -/
def afterLast (separator : Char) (chars : List Char) : List Char :=
  (chars.reverse.takeWhile (· != separator)).reverse

def isNameStart (char : Char) : Bool :=
  char.isAlpha || char == '_'

def isNamePart (char : Char) : Bool :=
  char.isAlphanum || char == '_'

theorem occursIn_iff {needle chars : List Char} :
    occursIn needle chars = true ↔ needle <:+: chars := by
  induction chars with
  | nil => simp [occursIn]
  | cons char rest ih =>
      rw [occursIn, Bool.or_eq_true, ih, List.infix_cons_iff, List.isPrefixOf_iff_prefix]

theorem after?_eq_some_iff {start chars rest : List Char} :
    after? start chars = some rest ↔ chars = start ++ rest := by
  induction start generalizing chars with
  | nil => simp [after?, eq_comm]
  | cons lead start ih =>
      cases chars with
      | nil => simp [after?]
      | cons char tail =>
          by_cases same : lead = char
          · simp [after?, same, ih]
          · simp [after?, same, Ne.symm same]

end BoundQuery.Text
