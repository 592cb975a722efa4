import BoundQuery.Decimal.Reading
import BoundQuery.Json.Basic
import BoundQuery.Word

/-!
Reading one JSON value from a text. A refusal names its cause and the line and column, counted in
bytes, where it was noticed.
-/

set_option autoImplicit false

namespace BoundQuery.Json

inductive Fault where
  | endInValue
  | endInList
  | endInObject
  | endInString
  | expectedColon
  | expectedListEnd
  | expectedObjectEnd
  | expectedWord
  | expectedValue
  | invalidEscape
  | invalidNumber
  | numberOutOfRange
  | controlCharacter
  | keyMustBeString
  | loneSurrogate
  | unfinishedPair
  | trailingComma
  | trailingCharacters
  | tooDeep

def Fault.message : Fault → String
  | .endInValue => "EOF while parsing a value"
  | .endInList => "EOF while parsing a list"
  | .endInObject => "EOF while parsing an object"
  | .endInString => "EOF while parsing a string"
  | .expectedColon => "expected \x60:\x60"
  | .expectedListEnd => "expected \x60,\x60 or \x60]\x60"
  | .expectedObjectEnd => "expected \x60,\x60 or \x60\x7d\x60"
  | .expectedWord => "expected ident"
  | .expectedValue => "expected value"
  | .invalidEscape => "invalid escape"
  | .invalidNumber => "invalid number"
  | .numberOutOfRange => "number out of range"
  | .controlCharacter => "control character (\\u0000-\\u001F) found while parsing a string"
  | .keyMustBeString => "key must be a string"
  | .loneSurrogate => "lone leading surrogate in hex escape"
  | .unfinishedPair => "unexpected end of hex escape"
  | .trailingComma => "trailing comma"
  | .trailingCharacters => "trailing characters"
  | .tooDeep => "recursion limit exceeded"

/-- A fault and the text not yet read when it was noticed. -/
structure Refusal where
  fault : Fault
  rest : List Char

/-- The fault lies in the last character read. -/
def refuseAt {α : Type} (fault : Fault) (rest : List Char) : Except Refusal α :=
  .error ⟨fault, rest⟩

/-- The fault lies in the next character, or at the end when there is none. -/
def refuseNext {α : Type} (fault : Fault) (rest : List Char) : Except Refusal α :=
  .error ⟨fault, rest.drop 1⟩

def isSpace (char : Char) : Bool :=
  char == ' ' || char == '\n' || char == '\t' || char == '\r'

def skipSpace (chars : List Char) : List Char :=
  chars.dropWhile isSpace

def hexValue? (char : Char) : Option Nat :=
  if char.isDigit then some (char.toNat - '0'.toNat)
  else if 'a' ≤ char && char ≤ 'f' then some (char.toNat - 'a'.toNat + 10)
  else if 'A' ≤ char && char ≤ 'F' then some (char.toNat - 'A'.toNat + 10)
  else none

def readHex : List Char → Except Refusal (Nat × List Char)
  | first :: second :: third :: fourth :: rest =>
      match hexValue? first, hexValue? second, hexValue? third, hexValue? fourth with
      | some a, some b, some c, some d => .ok (4096 * a + 256 * b + 16 * c + d, rest)
      | _, _, _, _ => refuseAt .invalidEscape rest
  | _ => refuseAt .endInString []

/-- A character beyond the first 65536 is written as a pair of escapes. -/
def readUnicodeEscape (chars : List Char) : Except Refusal (Char × List Char) := do
  let (first, rest) ← readHex chars
  if 0xDC00 ≤ first && first ≤ 0xDFFF then refuseAt .loneSurrogate rest
  else if 0xD800 ≤ first && first ≤ 0xDBFF then
    match rest with
    | '\\' :: 'u' :: more =>
        let (second, after) ← readHex more
        if 0xDC00 ≤ second && second ≤ 0xDFFF then
          pure (Char.ofNat (0x10000 + (first - 0xD800) * 0x400 + (second - 0xDC00)), after)
        else refuseAt .loneSurrogate after
    | '\\' :: more => refuseAt .unfinishedPair (more.drop 1)
    | more => refuseAt .unfinishedPair (more.drop 1)
  else pure (Char.ofNat first, rest)

def readEscape : List Char → Except Refusal (Char × List Char)
  | [] => refuseAt .endInString []
  | '"' :: rest => .ok ('"', rest)
  | '\\' :: rest => .ok ('\\', rest)
  | '/' :: rest => .ok ('/', rest)
  | 'b' :: rest => .ok ('\x08', rest)
  | 'f' :: rest => .ok ('\x0c', rest)
  | 'n' :: rest => .ok ('\n', rest)
  | 'r' :: rest => .ok ('\r', rest)
  | 't' :: rest => .ok ('\t', rest)
  | 'u' :: rest => readUnicodeEscape rest
  | _ :: rest => refuseAt .invalidEscape rest

/-- The characters up to the closing quote; the first argument bounds the number of steps. -/
def readChars : Nat → List Char → List Char → Except Refusal (List Char × List Char)
  | 0, _, chars => refuseAt .endInString chars
  | _ + 1, _, [] => refuseAt .endInString []
  | steps + 1, seen, char :: rest =>
      if char == '"' then .ok (seen.reverse, rest)
      else if char == '\\' then do
        let (escaped, after) ← readEscape rest
        readChars steps (escaped :: seen) after
      else if char.toNat < 0x20 then refuseAt .controlCharacter rest
      else readChars steps (char :: seen) rest

def readString (chars : List Char) : Except Refusal (String × List Char) := do
  let (text, rest) ← readChars (chars.length + 1) [] chars
  pure (String.ofList text, rest)

/-- Integers that fit 64 bits, signed or not, stay integers; a negative zero does not. -/
def integerNumber (negative : Bool) (value : Nat) : Option Number :=
  if negative then
    if 0 < value && value ≤ leastSigned.natAbs then some (.int (-(value : Int))) else none
  else if value ≤ greatestWord then some (.int value) else none

def floatNumber (negative : Bool) (coefficient : Nat) (exponent : Int) (rest : List Char) :
    Except Refusal (Number × List Char) :=
  let value := Decimal.nearest negative coefficient exponent
  if Decimal.isFinite value then .ok (.float value, rest) else refuseAt .numberOutOfRange rest

def readExponent (chars : List Char) : Except Refusal (Int × List Char) :=
  let negative := chars.head? == some '-'
  let body := if negative || chars.head? == some '+' then chars.drop 1 else chars
  match body with
  | [] => refuseAt .endInValue []
  | char :: rest =>
      if char.isDigit then
        let value : Int := Decimal.digitsValue (body.takeWhile Char.isDigit)
        .ok (if negative then -value else value, body.dropWhile Char.isDigit)
      else refuseAt .invalidNumber rest

def readFraction (chars : List Char) : Except Refusal (List Char × List Char) :=
  let digits := chars.takeWhile Char.isDigit
  let rest := chars.dropWhile Char.isDigit
  if digits.isEmpty then
    if rest.isEmpty then refuseNext .endInValue rest else refuseNext .invalidNumber rest
  else .ok (digits, rest)

/-- A number after its sign. A leading zero stands alone. -/
def readNumber (negative : Bool) (chars : List Char) : Except Refusal (Number × List Char) := do
  let whole := chars.takeWhile Char.isDigit
  let rest := chars.dropWhile Char.isDigit
  match whole with
  | [] => if rest.isEmpty then refuseAt .endInValue [] else refuseAt .invalidNumber (rest.drop 1)
  | '0' :: second :: more => refuseNext .invalidNumber (second :: more ++ rest)
  | _ =>
      match rest with
      | '.' :: afterPoint =>
          let (fraction, afterFraction) ← readFraction afterPoint
          let coefficient := Decimal.digitsValue (whole ++ fraction)
          match afterFraction with
          | mark :: afterMark =>
              if mark == 'e' || mark == 'E' then
                let (exponent, last) ← readExponent afterMark
                floatNumber negative coefficient (exponent - fraction.length) last
              else floatNumber negative coefficient (-(fraction.length : Int)) afterFraction
          | [] => floatNumber negative coefficient (-(fraction.length : Int)) []
      | mark :: afterMark =>
          if mark == 'e' || mark == 'E' then
            let (exponent, last) ← readExponent afterMark
            floatNumber negative (Decimal.digitsValue whole) exponent last
          else
            match integerNumber negative (Decimal.digitsValue whole) with
            | some found => pure (found, rest)
            | none => floatNumber negative (Decimal.digitsValue whole) 0 rest
      | [] =>
          match integerNumber negative (Decimal.digitsValue whole) with
          | some found => pure (found, rest)
          | none => floatNumber negative (Decimal.digitsValue whole) 0 rest

def readWord : List Char → List Char → Except Refusal (List Char)
  | [], chars => .ok chars
  | _ :: _, [] => refuseAt .endInValue []
  | letter :: word, char :: rest =>
      if letter == char then readWord word rest else refuseAt .expectedWord rest

mutual

/-- The first argument bounds the number of steps, the second the depth of nesting. -/
def readValue : Nat → Nat → List Char → Except Refusal (Json × List Char)
  | 0, _, chars => refuseNext .endInValue chars
  | steps + 1, depth, chars =>
      match skipSpace chars with
      | [] => refuseNext .endInValue []
      | char :: rest =>
          if char == 'n' then do pure (.null, ← readWord "ull".toList rest)
          else if char == 't' then do pure (.bool true, ← readWord "rue".toList rest)
          else if char == 'f' then do pure (.bool false, ← readWord "alse".toList rest)
          else if char == '-' then do
            let (found, after) ← readNumber true rest
            pure (.number found, after)
          else if char.isDigit then do
            let (found, after) ← readNumber false (char :: rest)
            pure (.number found, after)
          else if char == '"' then do
            let (text, after) ← readString rest
            pure (.string text, after)
          else if char == '[' then
            if depth ≤ 1 then refuseNext .tooDeep (char :: rest)
            else do
              let (items, after) ← readItems steps (depth - 1) true rest
              pure (.array items, after)
          else if char == '\x7b' then
            if depth ≤ 1 then refuseNext .tooDeep (char :: rest)
            else do
              let (members, after) ← readMembers steps (depth - 1) true rest
              pure (Json.ofMembers members, after)
          else refuseNext .expectedValue (char :: rest)

def readItems : Nat → Nat → Bool → List Char → Except Refusal (List Json × List Char)
  | 0, _, _, chars => refuseNext .endInList chars
  | steps + 1, depth, isFirst, chars =>
      match skipSpace chars with
      | [] => refuseNext .endInList []
      | char :: rest =>
          if char == ']' then .ok ([], rest)
          else if char == ',' && !isFirst then
            match skipSpace rest with
            | [] => refuseNext .endInValue []
            | ']' :: more => refuseNext .trailingComma (']' :: more)
            | next => do
                let (item, after) ← readValue steps depth next
                let (items, last) ← readItems steps depth false after
                pure (item :: items, last)
          else if isFirst then do
            let (item, after) ← readValue steps depth (char :: rest)
            let (items, last) ← readItems steps depth false after
            pure (item :: items, last)
          else refuseNext .expectedListEnd (char :: rest)

def readMembers : Nat → Nat → Bool → List Char →
    Except Refusal (List (String × Json) × List Char)
  | 0, _, _, chars => refuseNext .endInObject chars
  | steps + 1, depth, isFirst, chars =>
      match skipSpace chars with
      | [] => refuseNext .endInObject []
      | char :: rest =>
          if char == '\x7d' then .ok ([], rest)
          else if char == ',' && !isFirst then
            match skipSpace rest with
            | [] => refuseNext .endInValue []
            | '"' :: more => readMember steps depth more
            | '\x7d' :: more => refuseNext .trailingComma ('\x7d' :: more)
            | next => refuseNext .keyMustBeString next
          else if isFirst then
            if char == '"' then readMember steps depth rest
            else refuseNext .keyMustBeString (char :: rest)
          else refuseNext .expectedObjectEnd (char :: rest)

def readMember : Nat → Nat → List Char → Except Refusal (List (String × Json) × List Char)
  | 0, _, chars => refuseNext .endInObject chars
  | steps + 1, depth, chars => do
      let (name, afterName) ← readString chars
      match skipSpace afterName with
      | [] => refuseNext .endInObject []
      | ':' :: afterColon =>
          let (value, after) ← readValue steps depth afterColon
          let (members, last) ← readMembers steps depth false after
          pure ((name, value) :: members, last)
      | other => refuseNext .expectedColon other

end

def depthLimit : Nat := 128

def readChecked (chars : List Char) : Except Refusal Json := do
  let (value, rest) ← readValue (2 * chars.length + 2) depthLimit chars
  match skipSpace rest with
  | [] => pure value
  | other => refuseNext .trailingCharacters other

def bytesOf (chars : List Char) : Nat :=
  (String.ofList chars).utf8ByteSize

/-- The fault with the line and the byte of that line up to which the text was read. -/
def Refusal.message (refusal : Refusal) (chars : List Char) : String :=
  let before := chars.take (chars.length - refusal.rest.length)
  let line := 1 + before.count '\n'
  let column := bytesOf (before.reverse.takeWhile (· != '\n'))
  refusal.fault.message ++ " at line " ++ toString line ++ " column " ++ toString column

def read (text : String) : Except String Json :=
  match readChecked text.toList with
  | .ok value => .ok value
  | .error refusal => .error (refusal.message text.toList)

end BoundQuery.Json
