import BoundQuery.Text.CaseTable

/-!
Letter case by the Unicode rules, independent of any language. One character may become several, and
a capital sigma becomes the final form when it ends a word.
-/

set_option autoImplicit false

namespace BoundQuery.Text

def CaseRun.covers (run : CaseRun) (code : Nat) : Bool :=
  run.first ≤ code && code ≤ run.last && (code - run.first) % run.step == 0

def CaseRun.apply (run : CaseRun) (code : Nat) : Char :=
  Char.ofNat (code + run.shift).toNat

def inRanges (ranges : List (Nat × Nat)) (char : Char) : Bool :=
  ranges.any (fun range => range.1 ≤ char.toNat && char.toNat ≤ range.2)

def lowerChar (char : Char) : List Char :=
  if char.toNat < 0x80 then [char.toLower]
  else if char.toNat == 0x130 then ['i', Char.ofNat 0x307]
  else
    match lowerRuns.find? (fun run => run.covers char.toNat) with
    | some run => [run.apply char.toNat]
    | none => [char]

def upperChar (char : Char) : List Char :=
  if char.toNat < 0x80 then [char.toUpper]
  else
    match upperExpansions.lookup char.toNat with
    | some codes => codes.map Char.ofNat
    | none =>
        match upperRuns.find? (fun run => run.covers char.toNat) with
        | some run => [run.apply char.toNat]
        | none => [char]

/-- Whether the first character that is not case-ignorable is a cased one. -/
def meetsCased (chars : List Char) : Bool :=
  match chars.dropWhile (inRanges caseIgnorableRanges) with
  | [] => false
  | char :: _ => inRanges casedRanges char

/-- The characters before come in reverse order. -/
def lowerFrom (before : List Char) : List Char → List Char
  | [] => []
  | char :: rest =>
      let lowered :=
        if char.toNat == 0x3A3 then
          [if meetsCased before && !meetsCased rest then Char.ofNat 0x3C2 else Char.ofNat 0x3C3]
        else lowerChar char
      lowered ++ lowerFrom (char :: before) rest

def lowerChars (chars : List Char) : List Char :=
  lowerFrom [] chars

def lower (text : String) : String :=
  String.ofList (lowerChars text.toList)

def upperChars (chars : List Char) : List Char :=
  chars.flatMap upperChar

def upper (text : String) : String :=
  String.ofList (upperChars text.toList)

end BoundQuery.Text
