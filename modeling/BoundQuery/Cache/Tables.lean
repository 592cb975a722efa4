import BoundQuery.Text.Blank
import BoundQuery.Text.Letters
import BoundQuery.Text.Search

/-!
The tables that an SQL text names. A table is the dotted name behind `FROM`, `JOIN`, `INTO` or
`UPDATE`; it is known by its last part, without quotes and in lower case.
-/

set_option autoImplicit false

namespace BoundQuery

def tableKeywords : List (List Char) :=
  ["from".toList, "join".toList, "into".toList, "update".toList]

def isOpeningQuote (char : Char) : Bool :=
  char == '\x60' || char == '"' || char == '['

def isClosingQuote (char : Char) : Bool :=
  char == '\x60' || char == '"' || char == ']'

/-- Characters of a table name; beyond a plain name it may hold a dollar sign. -/
def isTableChar (char : Char) : Bool :=
  Text.isNamePart char || char == '$'

/-- One part of a dotted name, with at most one quote at either end, and what follows it. -/
def namePart? (chars : List Char) : Option (List Char × List Char) :=
  let opening := (chars.take 1).filter isOpeningQuote
  match chars.drop opening.length with
  | first :: rest =>
      if Text.isNameStart first then
        let inside := first :: rest.takeWhile isTableChar
        let behind := rest.dropWhile isTableChar
        let closing := (behind.take 1).filter isClosingQuote
        some (opening ++ inside ++ closing, behind.drop closing.length)
      else none
  | [] => none

/-- The further parts of a dotted name; the last of all the parts, and the number of characters that
they take. -/
def furtherParts : Nat → List Char → List Char → Nat → List Char × Nat
  | 0, last, _, taken => (last, taken)
  | steps + 1, last, chars, taken =>
      match chars with
      | '.' :: rest =>
          match namePart? rest with
          | some (part, behind) => furtherParts steps part behind (taken + 1 + part.length)
          | none => (last, taken)
      | _ => (last, taken)

/-- The last part of a dotted name and the number of its characters. -/
def dottedName? (chars : List Char) : Option (List Char × Nat) :=
  match namePart? chars with
  | some (part, behind) => some (furtherParts behind.length part behind part.length)
  | none => none

/-- A keyword at the start of the text, white space and a name: the last part of the name, and the
number of characters up to its end. -/
def tableAt? (chars : List Char) : Option (List Char × Nat) :=
  tableKeywords.findSome? (fun keyword =>
    if Text.startsIgnoringCase keyword chars then
      let behind := chars.drop keyword.length
      let blanks := behind.takeWhile Text.isAsciiBlank
      if blanks.isEmpty then none
      else
        (dottedName? (behind.drop blanks.length)).map
          (fun found => (found.1, keyword.length + blanks.length + found.2))
    else none)

def isTableQuote (char : Char) : Bool :=
  isOpeningQuote char || isClosingQuote char

/-- Every name found from left to right. The first argument counts the characters of the last find
still to pass, the second tells whether the character before belongs to a word. -/
def scanTables : Nat → Bool → List Char → List (List Char)
  | _, _, [] => []
  | passing + 1, _, char :: rest => scanTables passing (Text.isNamePart char) rest
  | 0, inWord, char :: rest =>
      match if inWord then none else tableAt? (char :: rest) with
      | some (name, length) =>
          Text.trimMatching isTableQuote name ::
            scanTables (length - 1) (Text.isNamePart char) rest
      | none => scanTables 0 (Text.isNamePart char) rest

def firstOccurrences : List String → List String
  | [] => []
  | text :: rest => text :: (firstOccurrences rest).filter (fun other => other != text)

def referencedTables (sql : String) : List String :=
  firstOccurrences ((scanTables 0 false sql.toList).map
    (fun name => String.ofList (Text.lowerChars name)))

end BoundQuery
