import BoundQuery.Proofs.PlainNames
import BoundQuery.Proofs.Segments

/-!
Reading quoted names back. What a dialect puts between its quotes is read up to the first closing
mark that stands alone, and that is the mark that the dialect has put there. So the text of a name
determines the name.
-/

set_option autoImplicit false

namespace BoundQuery

/-- Reads up to a closing mark that stands alone; two of them together are one character. -/
def readBody? (closing : Char) : List Char → Option (List Char × List Char)
  | [] => none
  | [char] => if char == closing then some ([], []) else none
  | char :: next :: rest =>
      if char == closing then
        if next == closing then
          (readBody? closing rest).map (fun found => (closing :: found.1, found.2))
        else some ([], next :: rest)
      else (readBody? closing (next :: rest)).map (fun found => (char :: found.1, found.2))

/-- Reads an opening mark and what follows it; gives also what stands behind the closing mark. -/
def readEnclosed? (opening closing : Char) : List Char → Option (List Char × List Char)
  | [] => none
  | char :: rest => if char == opening then readBody? closing rest else none

variable {opening closing : Char}

theorem doubled_cons (closing char : Char) (rest : List Char) :
    doubled closing (char :: rest) =
      (if char == closing then [char, char] else [char]) ++ doubled closing rest :=
  List.flatMap_cons

theorem readBody?_end {rest : List Char} (alone : rest.head? ≠ some closing) :
    readBody? closing (closing :: rest) = some ([], rest) := by
  cases rest with
  | nil => simp [readBody?]
  | cons next others =>
      have differs : ¬next = closing := fun same => alone (congrArg some same)
      simp [readBody?, differs]

theorem readBody?_pair (rest : List Char) :
    readBody? closing (closing :: closing :: rest) =
      (readBody? closing rest).map (fun found => (closing :: found.1, found.2)) := by
  simp [readBody?]

theorem readBody?_other {char : Char} (differs : char ≠ closing) (rest : List Char) :
    readBody? closing (char :: rest) =
      (readBody? closing rest).map (fun found => (char :: found.1, found.2)) := by
  cases rest with
  | nil => simp [readBody?, differs]
  | cons next others => simp [readBody?, differs]

theorem readBody?_written (char : Char) (rest : List Char) :
    readBody? closing ((if char == closing then [char, char] else [char]) ++ rest) =
      (readBody? closing rest).map (fun found => (char :: found.1, found.2)) := by
  by_cases same : char = closing
  · rw [if_pos (beq_iff_eq.mpr same), same]
    exact readBody?_pair rest
  · rw [if_neg (by simpa using same)]
    exact readBody?_other same rest

theorem readBody?_doubled (part rest : List Char) :
    readBody? closing (doubled closing part ++ rest) =
      (readBody? closing rest).map (fun found => (part ++ found.1, found.2)) := by
  induction part with
  | nil => simp [doubled]
  | cons char more ih =>
      rw [doubled_cons, List.append_assoc, readBody?_written, ih, Option.map_map]
      rfl

/-- What is read is what was written, whatever stands around it. -/
theorem eq_of_readBody? {chars part rest : List Char}
    (found : readBody? closing chars = some (part, rest)) :
    chars = doubled closing part ++ closing :: rest ∧ rest.head? ≠ some closing := by
  -- The cases are those in which a text is read: nothing, one character, and a mark before a
  -- second mark, before another character, or none at all.
  fun_induction readBody? closing chars generalizing part rest with
  | case1 => cases found
  | case2 char same =>
      cases found
      rw [beq_iff_eq.mp same]
      exact ⟨rfl, by simp⟩
  | case3 => cases found
  | case4 char next others same double ih =>
      obtain ⟨⟨inner, behind⟩, own, made⟩ := Option.map_eq_some_iff.mp found
      cases made
      obtain ⟨written, alone⟩ := ih own
      refine ⟨?_, alone⟩
      rw [beq_iff_eq.mp same, beq_iff_eq.mp double, written, doubled_cons, if_pos (by simp)]
      rfl
  | case5 char next others same single =>
      cases found
      rw [beq_iff_eq.mp same]
      exact ⟨rfl, by simpa using single⟩
  | case6 char next others differs ih =>
      obtain ⟨⟨inner, behind⟩, own, made⟩ := Option.map_eq_some_iff.mp found
      cases made
      obtain ⟨written, alone⟩ := ih own
      refine ⟨?_, alone⟩
      rw [written, doubled_cons, if_neg differs]
      rfl

theorem readBody?_eq_some_iff {chars part rest : List Char} :
    readBody? closing chars = some (part, rest) ↔
      chars = doubled closing part ++ closing :: rest ∧ rest.head? ≠ some closing := by
  refine ⟨eq_of_readBody?, ?_⟩
  rintro ⟨rfl, alone⟩
  rw [readBody?_doubled, readBody?_end alone, Option.map_some, List.append_nil]

namespace Dialect

/-- Reads a quoted part from the start of a text, and gives what stands behind it. -/
def readQuoted? (dialect : Dialect) : List Char → Option (List Char × List Char) :=
  readEnclosed? dialect.marks.1 dialect.marks.2

theorem toList_quotePart (dialect : Dialect) (part : String) :
    (dialect.quotePart part).toList =
      dialect.marks.1 :: (doubled dialect.marks.2 part.toList ++ [dialect.marks.2]) := by
  rw [dialect.quotePart_eq]
  unfold enclosed
  rw [String.toList_ofList]
  rfl

theorem readQuoted?_eq_some_iff (dialect : Dialect) {text part rest : List Char} :
    dialect.readQuoted? text = some (part, rest) ↔
      text = (dialect.quotePart (String.ofList part)).toList ++ rest ∧
        rest.head? ≠ some dialect.marks.2 := by
  have written : (dialect.quotePart (String.ofList part)).toList ++ rest =
      dialect.marks.1 :: (doubled dialect.marks.2 part ++ dialect.marks.2 :: rest) := by
    rw [dialect.toList_quotePart, String.toList_ofList, List.cons_append, List.append_assoc,
      List.singleton_append]
  rw [written]
  unfold readQuoted?
  cases text with
  | nil => simp [readEnclosed?]
  | cons char others =>
      by_cases own : char = dialect.marks.1
      · simp [readEnclosed?, own, readBody?_eq_some_iff]
      · simp [readEnclosed?, own]

/-- Also where the text goes on with a closing mark, what is read does not end before the last mark
of the quoted part. -/
theorem suffix_of_readQuoted? (dialect : Dialect) {part : String} {rest other behind : List Char}
    (found : dialect.readQuoted? ((dialect.quotePart part).toList ++ rest) = some (other, behind)) :
    behind <:+ rest := by
  have body : readBody? dialect.marks.2
      (doubled dialect.marks.2 part.toList ++ dialect.marks.2 :: rest) = some (other, behind) := by
    rw [dialect.toList_quotePart, List.cons_append, List.append_assoc,
      List.singleton_append] at found
    simpa [readQuoted?, readEnclosed?] using found
  rw [readBody?_doubled] at body
  obtain ⟨⟨inner, tail⟩, own, made⟩ := Option.map_eq_some_iff.mp body
  cases made
  obtain ⟨written, _⟩ := eq_of_readBody? own
  -- Reading may go on behind the last mark, if that is one of a pair, but it does not stop before.
  cases doubling : doubled dialect.marks.2 inner with
  | nil =>
      rw [doubling] at written
      exact (List.cons.inj written).2 ▸ List.suffix_rfl
  | cons char more =>
      rw [doubling] at written
      rw [(List.cons.inj written).2]
      exact ⟨more ++ [dialect.marks.2], List.append_assoc _ _ _⟩

theorem quotePart_injective (dialect : Dialect) : Function.Injective dialect.quotePart := by
  intro first second same
  have read (part : String) :
      dialect.readQuoted? (dialect.quotePart part).toList = some (part.toList, []) := by
    rw [readQuoted?_eq_some_iff, String.ofList_toList, List.append_nil]
    exact ⟨rfl, by simp⟩
  have both := (read first).symm.trans (same ▸ read second)
  exact String.toList_inj.mp (congrArg Prod.fst (Option.some.inj both))

/-! ### Dotted names -/

def writtenPart (dialect : Dialect) (part : String) : String :=
  if part == "*" then part else dialect.quotePart part

theorem marks_ne {mark : Char} (dialect : Dialect) (listed : mark ∈ ['.', '*']) :
    dialect.marks.1 ≠ mark ∧ dialect.marks.2 ≠ mark := by
  simp only [List.mem_cons, List.not_mem_nil, or_false] at listed
  rcases listed with rfl | rfl
  · cases dialect with
    | _ => exact ⟨by decide, by decide⟩
  · cases dialect with
    | _ => exact ⟨by decide, by decide⟩

theorem quotePart_ne_star (dialect : Dialect) (part : String) : dialect.quotePart part ≠ "*" := by
  intro same
  have chars := congrArg String.toList same
  rw [dialect.toList_quotePart] at chars
  exact (dialect.marks_ne (by decide)).1 (List.cons.inj chars).1

theorem writtenPart_injective (dialect : Dialect) : Function.Injective dialect.writtenPart := by
  intro first second same
  unfold writtenPart at same
  by_cases one : first = "*"
  · by_cases two : second = "*"
    · rw [one, two]
    · simp only [one, two, beq_iff_eq, if_true, if_false] at same
      exact absurd same.symm (dialect.quotePart_ne_star second)
  · by_cases two : second = "*"
    · simp only [one, two, beq_iff_eq, if_true, if_false] at same
      exact absurd same (dialect.quotePart_ne_star first)
    · simp only [one, two, beq_iff_eq, if_false] at same
      exact dialect.quotePart_injective same

theorem mem_doubled {mark char : Char} {chars : List Char} (member : char ∈ doubled mark chars) :
    char ∈ chars := by
  obtain ⟨own, inside, written⟩ := List.mem_flatMap.mp member
  split at written
  · simp only [List.mem_cons, List.not_mem_nil, or_false, or_self] at written
    rwa [written]
  · rwa [List.mem_singleton.mp written]

theorem point_not_mem_writtenPart (dialect : Dialect) {part : String}
    (whole : '.' ∉ part.toList) : '.' ∉ (dialect.writtenPart part).toList := by
  obtain ⟨opening, closing⟩ := dialect.marks_ne (by decide : '.' ∈ ['.', '*'])
  unfold writtenPart
  split
  · exact whole
  · rw [dialect.toList_quotePart, List.mem_cons, List.mem_append, List.mem_singleton]
    rintro (first | inside | last)
    · exact opening first.symm
    · exact whole (mem_doubled inside)
    · exact closing last.symm

theorem splitAt_escapeIdentifier (dialect : Dialect) (name : String) :
    Text.splitAt '.' (dialect.profile.escapeIdentifier name) =
      (Text.splitAt '.' name).map dialect.writtenPart := by
  have written : dialect.profile.escapeIdentifier name =
      ".".intercalate ((Text.splitAt '.' name).map dialect.writtenPart) := rfl
  have some : ((Text.splitAt '.' name).map dialect.writtenPart).map String.toList ≠ [] := by
    unfold Text.splitAt
    simp [List.splitOn_ne_nil]
  have whole : ∀ part ∈ ((Text.splitAt '.' name).map dialect.writtenPart).map String.toList,
      '.' ∉ part := by
    simp only [List.forall_mem_map]
    intro part member
    refine dialect.point_not_mem_writtenPart ?_
    obtain ⟨field, listed, rfl⟩ := List.mem_map.mp member
    rw [String.toList_ofList]
    exact Text.not_mem_of_mem_splitOn listed
  have fields := List.splitOn_intercalate '.' whole some
  rw [written]
  unfold Text.splitAt at fields ⊢
  rw [String.toList_intercalate]
  have mark : ".".toList = ['.'] := rfl
  rw [mark, fields, List.map_map]
  simp [Function.comp_def]

theorem escapeIdentifier_injective (dialect : Dialect) :
    Function.Injective dialect.profile.escapeIdentifier := by
  intro first second same
  apply Text.splitAt_injective '.'
  refine List.map_injective_iff.mpr dialect.writtenPart_injective ?_
  rw [← splitAt_escapeIdentifier, ← splitAt_escapeIdentifier, same]

end Dialect

/-- From a quoted part and what follows it, if that does not begin with the closing mark, just these
two are read, and from no other text. A part is never read as ending early, whatever follows it; and
different names are written differently. -/
theorem quoting_can_be_undone (dialect : Dialect) :
    (∀ text part rest, dialect.readQuoted? text = some (part, rest) ↔
        text = (dialect.quotePart (String.ofList part)).toList ++ rest ∧
          rest.head? ≠ some dialect.marks.2) ∧
      (∀ part rest other behind,
        dialect.readQuoted? ((dialect.quotePart part).toList ++ rest) = some (other, behind) →
          behind <:+ rest) ∧
      Function.Injective dialect.profile.escapeIdentifier :=
  ⟨fun _ _ _ => dialect.readQuoted?_eq_some_iff,
    fun _ _ _ _ => dialect.suffix_of_readQuoted?,
    dialect.escapeIdentifier_injective⟩

/-- A part with brackets at both ends, before another part. -/
theorem bracketed_part_is_read_back :
    Dialect.mssql.quotePart "]a]]" = "[]]a]]]]]" ∧
      Dialect.mssql.readQuoted? "[]]a]]]]].[id]".toList = some ("]a]]".toList, ".[id]".toList) ∧
      (∀ other behind, Dialect.mssql.readQuoted? ("[]]a]]]]]".toList ++ "]".toList) =
        some (other, behind) → behind <:+ "]".toList) ∧
      (Dialect.mssql.profile.escapeIdentifier "a.*" ≠
        Dialect.mssql.profile.escapeIdentifier "a.") := by
  obtain ⟨reads, ends, injective⟩ := quoting_can_be_undone .mssql
  have written : Dialect.mssql.quotePart "]a]]" = "[]]a]]]]]" := by decide
  refine ⟨written, (reads _ _ _).mpr ⟨by decide, by decide⟩, ?_, ?_⟩
  · intro other behind found
    exact ends "]a]]" "]".toList other behind (by rw [written]; exact found)
  · exact fun same => absurd (injective same) (by decide)

end BoundQuery
