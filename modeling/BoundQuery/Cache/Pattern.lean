/-!
Patterns over cache keys: a star stands for any text, a question mark for one character.
-/

set_option autoImplicit false

namespace BoundQuery

structure KeyPattern where
  text : String

/-- Whether a test holds of some ending of a text, the text itself and the empty one included. -/
def anyEnding (test : List Char → Bool) : List Char → Bool
  | [] => test []
  | char :: rest => test (char :: rest) || anyEnding test rest

def globMatches : List Char → List Char → Bool
  | [], text => text.isEmpty
  | mark :: pattern, text =>
      if mark == '*' then anyEnding (globMatches pattern) text
      else
        match text with
        | [] => false
        | char :: rest => (mark == '?' || mark == char) && globMatches pattern rest

namespace KeyPattern

def all (start : String) : KeyPattern :=
  ⟨start ++ "*"⟩

/-- Every key with the given start that mentions a name later on. -/
def mentioning (start name : String) : KeyPattern :=
  ⟨start ++ "*" ++ name ++ "*"⟩

def accepts (pattern : KeyPattern) (key : String) : Bool :=
  globMatches pattern.text.toList key.toList

end KeyPattern

end BoundQuery
