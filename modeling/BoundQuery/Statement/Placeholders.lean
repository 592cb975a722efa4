import BoundQuery.Decimal.Reading
import BoundQuery.Dialect
import BoundQuery.Text.Search
import BoundQuery.Word

/-!
Counting placeholders in finished SQL text, without knowing how it was made.
-/

set_option autoImplicit false

namespace BoundQuery

/-- Question marks outside single quotes; the flag tells whether a quote is open. -/
def countMarks : Bool → List Char → Nat
  | _, [] => 0
  | quoted, char :: rest =>
      if char == '\'' then countMarks (!quoted) rest
      else if char == '?' && !quoted then countMarks quoted rest + 1
      else countMarks quoted rest

/-- The number that starts the text; none, or one past 64 bits, counts as zero. -/
def leadingNumber (chars : List Char) : Nat :=
  match Decimal.readNat greatestWord (chars.takeWhile Char.isDigit) with
  | .ok number => number
  | .error _ => 0

/-- The highest number behind a mark. A mark does not overlap the one before it: the first argument
counts the characters of it still to pass. -/
def highestNumber (mark : List Char) : Nat → List Char → Nat
  | _, [] => 0
  | passing + 1, _ :: rest => highestNumber mark passing rest
  | 0, char :: rest =>
      match Text.after? mark (char :: rest) with
      | some behind => max (leadingNumber behind) (highestNumber mark (mark.length - 1) rest)
      | none => highestNumber mark 0 rest

def numberMark (profile : Profile) : List Char :=
  ((profile.placeholder 1).toList.reverse.dropWhile (· == '1')).reverse

def countPlaceholders (profile : Profile) (sql : String) : Nat :=
  if profile.placeholder 1 == "?" then countMarks false sql.toList
  else highestNumber (numberMark profile) 0 sql.toList

end BoundQuery
