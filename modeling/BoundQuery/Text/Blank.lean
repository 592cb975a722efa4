/-!
White space: the characters with the White_Space property, trimming, and cutting a text into words
or at a separator.
-/

set_option autoImplicit false

namespace BoundQuery.Text

/-- The 25 characters with the White_Space property. -/
def isBlank (char : Char) : Bool :=
  let code := char.toNat
  (9 ≤ code && code ≤ 13) || code == 0x20 || code == 0x85 || code == 0xA0 || code == 0x1680 ||
    (0x2000 ≤ code && code ≤ 0x200A) || code == 0x2028 || code == 0x2029 || code == 0x202F ||
    code == 0x205F || code == 0x3000

/-- White space by the ASCII rule of pattern languages: the six characters of `[\t\n\v\f\r ]`. -/
def isAsciiBlank (char : Char) : Bool :=
  (9 ≤ char.toNat && char.toNat ≤ 13) || char == ' '

def trimStartChars (chars : List Char) : List Char :=
  chars.dropWhile isBlank

def trimEndChars (chars : List Char) : List Char :=
  (chars.reverse.dropWhile isBlank).reverse

def trimChars (chars : List Char) : List Char :=
  trimEndChars (trimStartChars chars)

def trim (text : String) : String :=
  String.ofList (trimChars text.toList)

def trimMatching (test : Char → Bool) (chars : List Char) : List Char :=
  ((chars.dropWhile test).reverse.dropWhile test).reverse

def words (chars : List Char) : List (List Char) :=
  (chars.splitOnP isBlank).filter (fun word => !word.isEmpty)

def splitAt (separator : Char) (text : String) : List String :=
  (text.toList.splitOn separator).map String.ofList

variable {separator : Char} {chars : List Char}

theorem not_mem_of_mem_splitOn {field : List Char} (member : field ∈ chars.splitOn separator) :
    separator ∉ field := by
  induction chars generalizing field with
  | nil =>
      rw [List.splitOn_nil, List.mem_singleton] at member
      rw [member]
      exact List.not_mem_nil
  | cons char rest ih =>
      rw [List.splitOn_cons_eq_if_modifyHead] at member
      by_cases cut : (char == separator) = true
      · rw [if_pos cut] at member
        rcases List.mem_cons.mp member with rfl | later
        · exact List.not_mem_nil
        · exact ih later
      · obtain ⟨first, others, split⟩ :=
          List.exists_cons_of_ne_nil (List.splitOn_ne_nil separator rest)
        rw [if_neg cut, split, List.modifyHead_cons] at member
        rw [split] at ih
        rcases List.mem_cons.mp member with rfl | later
        · rw [List.mem_cons, not_or]
          exact ⟨fun same => cut (beq_iff_eq.mpr same.symm), ih List.mem_cons_self⟩
        · exact ih (List.mem_cons_of_mem first later)

theorem eq_or_mem_splitOn {char : Char} (member : char ∈ chars) :
    char = separator ∨ ∃ field ∈ chars.splitOn separator, char ∈ field := by
  induction chars with
  | nil => cases member
  | cons first rest ih =>
      rw [List.splitOn_cons_eq_if_modifyHead]
      by_cases cut : (first == separator) = true
      · rw [if_pos cut]
        rcases List.mem_cons.mp member with rfl | later
        · exact .inl (beq_iff_eq.mp cut)
        · obtain same | ⟨field, listed, inside⟩ := ih later
          · exact .inl same
          · exact .inr ⟨field, List.mem_cons_of_mem [] listed, inside⟩
      · obtain ⟨head, others, split⟩ :=
          List.exists_cons_of_ne_nil (List.splitOn_ne_nil separator rest)
        rw [if_neg cut, split, List.modifyHead_cons]
        rw [split] at ih
        rcases List.mem_cons.mp member with rfl | later
        · exact .inr ⟨char :: head, List.mem_cons_self, List.mem_cons_self⟩
        · obtain same | ⟨field, listed, inside⟩ := ih later
          · exact .inl same
          · rcases List.mem_cons.mp listed with rfl | further
            · exact .inr ⟨first :: field, List.mem_cons_self, List.mem_cons_of_mem _ inside⟩
            · exact .inr ⟨field, List.mem_cons_of_mem _ further, inside⟩

theorem splitOn_injective (separator : Char) : Function.Injective (List.splitOn separator) :=
  Function.LeftInverse.injective fun _ => List.intercalate_splitOn separator

theorem splitAt_injective (separator : Char) : Function.Injective (splitAt separator) := by
  intro first second same
  apply String.toList_inj.mp
  apply splitOn_injective separator
  exact (List.map_inj_right fun _ _ => String.ofList_inj.mp).mp same

end BoundQuery.Text
