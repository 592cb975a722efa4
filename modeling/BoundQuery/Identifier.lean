import BoundQuery.Dialect
import BoundQuery.Error
import BoundQuery.Text.Blank
import BoundQuery.Text.Search

/-!
Names and expressions that may enter a statement. A plain name is quoted when it is written; an
expression is the caller's own SQL and is written as it stands. Neither may hold a statement
separator, a comment mark or NUL.
-/

set_option autoImplicit false

namespace BoundQuery

inductive Identifier where
  | plain (name : String)
  | expression (text : String)

namespace Identifier

/-- Texts that could end a statement or hide the rest of it. -/
def forbiddenSequences : List (List Char) :=
  [[';'], ['-', '-'], ['/', '*'], ['*', '/'], [Char.ofNat 0]]

def hasForbidden (chars : List Char) : Bool :=
  forbiddenSequences.any (fun sequence => Text.occursIn sequence chars)

def isPlainPart : List Char → Bool
  | [] => false
  | first :: rest => Text.isNameStart first && rest.all Text.isNamePart

/-- At most three parts, such as `schema.table.column`. -/
def isPlain (chars : List Char) : Bool :=
  let parts := chars.splitOn '.'
  parts.length ≤ 3 && parts.all isPlainPart

def isAsWord (word : List Char) : Bool :=
  Text.equalsIgnoringCase word ['a', 's']

/-- The marks that tell an expression: a point, a parenthesis, a star, a comma, or the word `AS`. -/
def isComplex (chars : List Char) : Bool :=
  chars.any (fun char => char == '.' || char == '(' || char == '*' || char == ',') ||
    (Text.words chars).any isAsWord

def read (kind name : String) : Except QueryError Identifier :=
  let trimmed := Text.trimChars name.toList
  if trimmed.isEmpty || hasForbidden trimmed then .error (.invalidIdentifier kind name)
  else if isPlain trimmed then .ok (.plain (String.ofList trimmed))
  else if isComplex trimmed then .ok (.expression (String.ofList trimmed))
  else .error (.invalidIdentifier kind name)

def readTable (name : String) : Except QueryError Identifier :=
  read "table" name

def readColumn (name : String) : Except QueryError Identifier :=
  read "column" name

/-- The name as the caller wrote it, less surrounding white space. -/
def name : Identifier → String
  | plain name => name
  | expression text => text

def render (profile : Profile) : Identifier → String
  | plain name => profile.escapeIdentifier name
  | expression text => text

end Identifier

def checkRaw (kind sql : String) : Except QueryError Unit :=
  if Identifier.hasForbidden sql.toList then
    .error ((QueryError.invalidIdentifier kind sql).withHelp
      "Raw fragments may not contain ';', comments or NUL bytes")
  else .ok ()

end BoundQuery
