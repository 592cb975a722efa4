import BoundQuery.Builder.Select
import BoundQuery.Proofs.TableNames

/-!
How the built-in dialects write plain names: each part between the quotes of the dialect, with
nothing in it doubled. Aliases are written in the same way.
-/

set_option autoImplicit false

namespace BoundQuery

/-- The dotted parts of a name, less surrounding white space. -/
def nameParts (name : String) : List (List Char) :=
  (Text.trimChars name.toList).splitOn '.'

/-- The part behind the last point, by which a table is known. -/
def lastSegment (name : String) : List Char :=
  (nameParts name).getLastD []

def IsPlainName (name : String) : Prop :=
  Identifier.isPlain (Text.trimChars name.toList) = true

instance (name : String) : Decidable (IsPlainName name) :=
  inferInstanceAs (Decidable (_ = true))

theorem IsPlainName.parts {name : String} (plain : IsPlainName name) :
    ∃ part others, nameParts name = part :: others ∧
      ∀ other ∈ part :: others, Identifier.isPlainPart other = true := by
  have both : (nameParts name).length ≤ 3 ∧
      ∀ part ∈ nameParts name, Identifier.isPlainPart part = true := by
    unfold nameParts
    unfold IsPlainName Identifier.isPlain at plain
    simpa using plain
  cases split : nameParts name with
  | nil => exact absurd split (List.splitOn_ne_nil _ _)
  | cons part others =>
      refine ⟨part, others, rfl, ?_⟩
      rw [← split]
      exact both.2

theorem lastSegment_of_parts {name : String} {part : List Char} {others : List (List Char)}
    (split : nameParts name = part :: others) : lastSegment name = others.getLastD part := by
  unfold lastSegment
  rw [split, List.getLastD_cons]

theorem IsPlainName.ascii {name : String} (plain : IsPlainName name) :
    ∀ char ∈ lastSegment name, char.toNat < 128 := by
  obtain ⟨part, others, split, plainParts⟩ := plain.parts
  rw [lastSegment_of_parts split]
  intro char member
  have namePart := isNamePart_of_isPlainPart (plainParts _ List.getLastD_mem_cons) char member
  have code := code_of_isNamePart namePart
  omega

/-- What is accepted has something in it and no forbidden sequence; it is a plain name, or else it
has the marks of an expression. -/
theorem Identifier.read_eq_ok_iff {kind name : String} {identifier : Identifier} :
    Identifier.read kind name = .ok identifier ↔
      Text.trimChars name.toList ≠ [] ∧
        Identifier.hasForbidden (Text.trimChars name.toList) = false ∧
        (IsPlainName name ∧ identifier = .plain (Text.trim name) ∨
          ¬IsPlainName name ∧ Identifier.isComplex (Text.trimChars name.toList) = true ∧
            identifier = .expression (Text.trim name)) := by
  unfold Identifier.read IsPlainName Text.trim
  dsimp only
  generalize Text.trimChars name.toList = trimmed
  by_cases refused : (trimmed.isEmpty || Identifier.hasForbidden trimmed) = true
  · rw [if_pos refused]
    refine ⟨fun accepted => (by cases accepted), fun ⟨inhabited, harmless, _⟩ => ?_⟩
    rw [harmless, Bool.or_false, List.isEmpty_iff] at refused
    exact absurd refused inhabited
  · have proper : trimmed ≠ [] ∧ Identifier.hasForbidden trimmed = false := by
      simpa using refused
    rw [if_neg refused]
    by_cases plain : Identifier.isPlain trimmed = true
    · rw [if_pos plain]
      simp [proper, plain, @eq_comm _ identifier]
    · rw [if_neg plain]
      by_cases complex : Identifier.isComplex trimmed = true
      · rw [if_pos complex]
        simp [proper, plain, complex, @eq_comm _ identifier]
      · rw [if_neg complex]
        simp [plain, complex]

theorem IsPlainName.read {name kind : String} {identifier : Identifier}
    (plain : IsPlainName name) (accepted : Identifier.read kind name = .ok identifier) :
    identifier = .plain (String.ofList (Text.trimChars name.toList)) := by
  obtain ⟨_, _, own | other⟩ := Identifier.read_eq_ok_iff.mp accepted
  · exact own.2
  · exact absurd plain other.1

/-! ### Quotes -/

def EndsQuoted (chars : List Char) : Prop :=
  ∃ front mark, chars = front ++ [mark] ∧ isClosingQuote mark = true

theorem EndsQuoted.append (front : List Char) {chars : List Char} (quoted : EndsQuoted chars) :
    EndsQuoted (front ++ chars) := by
  obtain ⟨body, mark, rfl, closing⟩ := quoted
  exact ⟨front ++ body, mark, by rw [List.append_assoc], closing⟩

theorem EndsQuoted.separate {chars : List Char} (quoted : EndsQuoted chars) : Separate chars := by
  obtain ⟨front, mark, rfl, closing⟩ := quoted
  simp only [isClosingQuote, Bool.or_eq_true, beq_iff_eq] at closing
  rcases closing with (rfl | rfl) | rfl
  · exact separate_of_last (by decide) (by decide)
  · exact separate_of_last (by decide) (by decide)
  · exact separate_of_last (by decide) (by decide)

namespace Dialect

def marks : Dialect → Char × Char
  | postgresql => ('"', '"')
  | sqlite => ('"', '"')
  | mysql => ('\x60', '\x60')
  | mssql => ('[', ']')

theorem quotePart_eq (dialect : Dialect) (part : String) :
    dialect.quotePart part = enclosed dialect.marks.1 dialect.marks.2 part := by
  cases dialect with
  | _ => rfl

theorem marks_closing (dialect : Dialect) : isClosingQuote dialect.marks.2 = true := by
  cases dialect with
  | _ => rfl

theorem marks_proper (dialect : Dialect) : ProperMarks (some dialect.marks) := by
  intro opening closing same
  cases dialect with
  | _ =>
      cases same
      decide

end Dialect

theorem doubled_of_not_mem {mark : Char} {chars : List Char} (absent : mark ∉ chars) :
    doubled mark chars = chars := by
  induction chars with
  | nil => rfl
  | cons char rest ih =>
      obtain ⟨other, further⟩ := not_or.mp (List.mem_cons.not.mp absent)
      unfold doubled at ih ⊢
      rw [List.flatMap_cons, ih further, if_neg (by simpa using Ne.symm other)]
      rfl

variable {dialect : Dialect}

theorem marks_not_mem {part : List Char} (plain : Identifier.isPlainPart part = true) :
    dialect.marks.2 ∉ part := by
  intro member
  have quote := isTableQuote_of_isNamePart (isNamePart_of_isPlainPart plain _ member)
  unfold isTableQuote at quote
  rw [dialect.marks_closing, Bool.or_true] at quote
  cases quote

theorem quotePart_plain {part : List Char} (plain : Identifier.isPlainPart part = true) :
    (dialect.quotePart (String.ofList part)).toList = around (some dialect.marks) part := by
  rw [dialect.quotePart_eq]
  unfold enclosed around
  rw [String.toList_ofList, String.toList_ofList, doubled_of_not_mem (marks_not_mem plain)]

theorem quotePart_endsQuoted (part : String) : EndsQuoted (dialect.quotePart part).toList := by
  rw [dialect.quotePart_eq]
  unfold enclosed
  rw [String.toList_ofList]
  exact ⟨_, _, rfl, dialect.marks_closing⟩

theorem escapeIdentifier_plain {name : String} (plain : IsPlainName name) :
    (dialect.profile.escapeIdentifier (String.ofList (Text.trimChars name.toList))).toList =
      writtenName (some dialect.marks) (nameParts name) := by
  obtain ⟨part, others, split, plainParts⟩ := plain.parts
  have escaped (text : String) : dialect.profile.escapeIdentifier text =
      quoteDotted dialect.quotePart text := rfl
  have fields : Text.splitAt '.' (String.ofList (Text.trimChars name.toList)) =
      (nameParts name).map String.ofList := by
    unfold Text.splitAt nameParts
    rw [String.toList_ofList]
  have each : ∀ other ∈ part :: others,
      (if String.ofList other == "*" then String.ofList other
        else dialect.quotePart (String.ofList other)).toList =
          around (some dialect.marks) other := by
    intro other member
    have own := plainParts other member
    have star : ¬(String.ofList other == "*") = true := by
      rw [beq_iff_eq]
      intro same
      have chars : other = ['*'] := by
        rw [← String.toList_ofList (l := other), same]
        rfl
      rw [chars] at own
      exact absurd own (by decide)
    rw [if_neg star]
    exact quotePart_plain own
  have mapped : (((part :: others).map String.ofList).map (fun other =>
      if other == "*" then other else dialect.quotePart other)).map String.toList =
        (part :: others).map (around (some dialect.marks)) := by
    rw [List.map_map, List.map_map]
    exact List.map_congr_left each
  rw [escaped, quoteDotted, fields, split, String.toList_intercalate, mapped]
  rfl

theorem render_plain {name kind : String} {identifier : Identifier} (plain : IsPlainName name)
    (accepted : Identifier.read kind name = .ok identifier) :
    (identifier.render dialect.profile).toList =
      writtenName (some dialect.marks) (nameParts name) := by
  rw [plain.read accepted]
  exact escapeIdentifier_plain plain

theorem table_plain {name rendered : String} (plain : IsPlainName name)
    (accepted : dialect.profile.table name = .ok rendered) :
    rendered.toList = writtenName (some dialect.marks) (nameParts name) := by
  unfold Profile.table at accepted
  obtain ⟨identifier, read, same⟩ := exists_of_bind_ok accepted
  cases same
  exact render_plain plain read

theorem column_plain {name rendered : String} (plain : IsPlainName name)
    (accepted : dialect.profile.column name = .ok rendered) :
    rendered.toList = writtenName (some dialect.marks) (nameParts name) := by
  unfold Profile.column at accepted
  obtain ⟨identifier, read, same⟩ := exists_of_bind_ok accepted
  cases same
  exact render_plain plain read

theorem writtenName_endsQuoted {part : List Char} {others : List (List Char)} :
    EndsQuoted (writtenName (some dialect.marks) (part :: others)) := by
  rw [writtenName_cons]
  induction others using List.reverseRecOn with
  | nil =>
      rw [List.flatMap_nil, List.append_nil]
      exact ⟨_, _, rfl, dialect.marks_closing⟩
  | append_singleton front last _ =>
      rw [List.flatMap_append, List.flatMap_singleton, ← List.append_assoc]
      apply EndsQuoted.append
      exact ⟨'.' :: dialect.marks.1 :: last, _, rfl, dialect.marks_closing⟩

theorem column_endsQuoted {name rendered : String} (plain : IsPlainName name)
    (accepted : dialect.profile.column name = .ok rendered) : EndsQuoted rendered.toList := by
  obtain ⟨part, others, split, _⟩ := plain.parts
  rw [column_plain plain accepted, split]
  exact writtenName_endsQuoted

theorem aliasName_ok {name rendered : String}
    (accepted : dialect.profile.aliasName name = .ok rendered) :
    IsPlainName name ∧
      rendered = dialect.quotePart (String.ofList (Text.trimChars name.toList)) := by
  obtain ⟨identifier, read, same⟩ := exists_of_bind_ok accepted
  obtain ⟨_, _, ⟨plain, rfl⟩ | ⟨_, _, rfl⟩⟩ := Identifier.read_eq_ok_iff.mp read
  · dsimp only at same
    split at same
    · cases same
    · cases same
      exact ⟨plain, rfl⟩
  · cases same

theorem aliasName_endsQuoted {name rendered : String}
    (accepted : dialect.profile.aliasName name = .ok rendered) : EndsQuoted rendered.toList := by
  obtain ⟨_, rfl⟩ := aliasName_ok accepted
  exact quotePart_endsQuoted _

end BoundQuery
