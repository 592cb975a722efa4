import BoundQuery.Proofs.Correspondence
import BoundQuery.Proofs.PlaceholderCount
import BoundQuery.Proofs.TidyFrame

/-!
Which texts a count of placeholders passes over. Names without a question mark, a dollar sign, an at
sign and a quote are written without them, the dialects put nothing but closed literals around them,
and a raw condition stays silent where its slots stand outside of its literals and its escaped
question marks inside.
-/

set_option autoImplicit false

namespace BoundQuery

/-- No character that could belong to a placeholder or open a literal. -/
def Quiet (chars : List Char) : Prop :=
  ∀ char ∈ chars, char ∉ ['?', '$', '@', '\'']

-- The characters of the text are tried, not all there are.
instance (chars : List Char) : Decidable (Quiet chars) :=
  decidable_of_iff (chars.all (fun char => decide (char ∉ ['?', '$', '@', '\''])) = true) (by
    simp only [Quiet, List.all_eq_true, decide_eq_true_eq])

namespace Quiet

variable {left right chars : List Char} {before behind : String}

theorem nothing : Quiet [] :=
  fun _ member => by cases member

theorem append (first : Quiet left) (second : Quiet right) : Quiet (left ++ right) :=
  List.forall_mem_append.mpr ⟨first, second⟩

theorem followed (first : Quiet before.toList) (second : Quiet behind.toList) :
    Quiet (before ++ behind).toList := by
  rw [String.toList_append]
  exact first.append second

theorem within (quiet : Quiet right) (inside : left <:+: right) : Quiet left :=
  fun char member => quiet char (inside.subset member)

theorem of_nameParts (parts : ∀ char ∈ chars, Text.isNamePart char = true) : Quiet chars := by
  have others : ∀ mark ∈ ['?', '$', '@', '\''], (!Text.isNamePart mark) = true :=
    List.all_eq_true.mp (by decide)
  intro char member listed
  have other := others char listed
  rw [parts char member] at other
  cases other

theorem number (number : Nat) : Quiet (toString number).toList := by
  obtain ⟨first, rest, text, digits⟩ := digits_of_number number
  rw [text]
  exact of_nameParts fun char member => isNamePart_of_isDigit (digits char member)

theorem commaSeparated {texts : List String} (each : ∀ text ∈ texts, Quiet text.toList) :
    Quiet (commaSeparated texts).toList :=
  commaSeparated_of_joined Quiet.nothing
    (fun own other => own.append (append (by decide) other)) each

theorem operator (operator : Operator) : Quiet operator.text.toList := by
  cases operator with
  | _ => decide

theorem compared (own : Quiet before.toList) (comparison : Operator) :
    Quiet (before ++ " " ++ comparison.text ++ " ").toList :=
  ((own.followed (by decide)).followed (operator comparison)).followed (by decide)

theorem unnoticed (quiet : Quiet chars) (quoted : Bool) :
    countMarks quoted chars = 0 ∧ quotedAfter quoted chars = quoted := by
  induction chars with
  | nil => exact ⟨rfl, rfl⟩
  | cons char rest ih =>
      obtain ⟨own, others⟩ := List.forall_mem_cons.mp quiet
      have quote : ¬(char == '\'') = true := by
        intro same
        rw [beq_iff_eq.mp same] at own
        exact own (by decide)
      have mark : ¬(char == '?' && !quoted) = true := by
        intro same
        rw [Bool.and_eq_true, beq_iff_eq] at same
        rw [same.1] at own
        exact own (by decide)
      rw [countMarks, quotedAfter, if_neg quote, if_neg quote, if_neg mark]
      exact ih others

theorem silent (quiet : Quiet chars) (dialect : Dialect) : dialect.Silent chars := by
  cases dialect with
  | postgresql => exact fun member => quiet _ member (by decide)
  | mssql => exact fun member => quiet _ member (by decide)
  | mysql => exact quiet.unnoticed false
  | sqlite => exact quiet.unnoticed false

end Quiet

theorem IsPlainName.quiet {name : String} (plain : IsPlainName name) :
    Quiet (Text.trimChars name.toList) := by
  intro char member
  rcases point_or_isNamePart plain char member with rfl | part
  · decide
  · exact Quiet.of_nameParts (List.forall_mem_singleton.mpr part) char List.mem_cons_self

/-! ### What a dialect writes -/

namespace Dialect

variable (dialect : Dialect)

instance (chars : List Char) : Decidable (dialect.Silent chars) := by
  unfold Silent
  cases dialect with
  | postgresql => exact inferInstanceAs (Decidable (_ ∉ _))
  | mssql => exact inferInstanceAs (Decidable (_ ∉ _))
  | mysql => exact inferInstanceAs (Decidable (_ ∧ _))
  | sqlite => exact inferInstanceAs (Decidable (_ ∧ _))

theorem quiet_marks : Quiet [dialect.marks.1] ∧ Quiet [dialect.marks.2] := by
  cases dialect with
  | _ => decide

theorem quiet_quotePart {part : String} (quiet : Quiet part.toList) :
    Quiet (dialect.quotePart part).toList := by
  obtain ⟨opening, closing⟩ := dialect.quiet_marks
  intro char member
  rcases dialect.mem_quotePart member with rfl | inside | rfl
  · exact opening _ List.mem_cons_self
  · exact quiet char inside
  · exact closing _ List.mem_cons_self

theorem quiet_writtenName {parts : List (List Char)}
    (plain : ∀ part ∈ parts, Identifier.isPlainPart part = true) :
    Quiet (writtenName (some dialect.marks) parts) := by
  obtain ⟨opening, closing⟩ := dialect.quiet_marks
  refine intercalate_of_joined Quiet.nothing
    (fun own other => own.append (Quiet.append (by decide) other)) fun text member => ?_
  obtain ⟨part, listed, rfl⟩ := List.mem_map.mp member
  have own : Quiet part := Quiet.of_nameParts (isNamePart_of_isPlainPart (plain part listed))
  exact (opening.append own).append closing

theorem quiet_render {kind name : String} {identifier : Identifier}
    (quiet : Quiet (Text.trimChars name.toList))
    (accepted : Identifier.read kind name = .ok identifier) :
    Quiet (identifier.render dialect.profile).toList := by
  rcases Identifier.read_cases accepted with plain | ⟨_, rfl⟩
  · obtain ⟨part, others, split, plainParts⟩ := IsPlainName.parts plain
    rw [render_plain plain accepted, split]
    exact dialect.quiet_writtenName plainParts
  · rw [Identifier.render, String.toList_ofList]
    exact quiet

theorem quiet_table {name rendered : String} (quiet : Quiet (Text.trimChars name.toList))
    (accepted : dialect.profile.table name = .ok rendered) : Quiet rendered.toList := by
  obtain ⟨identifier, read, same⟩ := exists_of_bind_ok accepted
  cases same
  exact dialect.quiet_render quiet read

theorem quiet_column {name rendered : String} (quiet : Quiet (Text.trimChars name.toList))
    (accepted : dialect.profile.column name = .ok rendered) : Quiet rendered.toList := by
  obtain ⟨identifier, read, same⟩ := exists_of_bind_ok accepted
  cases same
  exact dialect.quiet_render quiet read

theorem quiet_aliasName {name rendered : String}
    (accepted : dialect.profile.aliasName name = .ok rendered) : Quiet rendered.toList := by
  obtain ⟨plain, rfl⟩ := aliasName_ok accepted
  refine dialect.quiet_quotePart ?_
  rw [String.toList_ofList]
  exact plain.quiet

theorem Silent.followed {dialect : Dialect} {before behind : String}
    (first : dialect.Silent before.toList)
    (second : dialect.Silent behind.toList) : dialect.Silent (before ++ behind).toList := by
  rw [String.toList_append]
  exact first.append second

theorem silent_extract (part : DatePart) {column : String} (own : Quiet column.toList) :
    dialect.Silent (part.extract dialect.profile column).toList := by
  have around {before behind : String} (left : dialect.Silent before.toList)
      (right : dialect.Silent behind.toList) : dialect.Silent (before ++ column ++ behind).toList :=
    (left.followed (own.silent dialect)).followed right
  cases part with
  | _ =>
      cases dialect with
      | _ => exact around (by decide) (by decide)

theorem silent_currentDate : dialect.Silent dialect.currentDate.toList := by
  cases dialect with
  | _ => decide

theorem silent_dateMinusDays (days : Nat) : dialect.Silent (dialect.dateMinusDays days).toList := by
  have number := Quiet.number days
  cases dialect with
  | sqlite =>
      have opens : countMarks false "DATE('now', '-".toList = 0 ∧
          quotedAfter false "DATE('now', '-".toList = true := by decide
      have closes : countMarks true " days')".toList = 0 ∧
          quotedAfter true " days')".toList = false := by decide
      obtain ⟨none, within⟩ := number.unnoticed true
      change Inert ("DATE('now', '-" ++ toString days ++ " days')").toList
      unfold Inert
      simp only [String.toList_append, countMarks_append, quotedAfter_append, opens.1, opens.2,
        none, within, closes.1, closes.2, and_self]
  | _ =>
      exact Silent.followed (Silent.followed (by decide) (number.silent _)) (by decide)

theorem quiet_standardPaging (limit offset : Option Nat) :
    Quiet (standardPaging limit offset).toList := by
  cases limit with
  | none =>
      cases offset with
      | none => exact Quiet.nothing
      | some skipped => exact Quiet.followed (by decide) (.number skipped)
  | some most =>
      have limiting : Quiet ("LIMIT " ++ toString most).toList :=
        Quiet.followed (by decide) (.number most)
      cases offset with
      | none => exact limiting
      | some skipped => exact (limiting.followed (by decide)).followed (.number skipped)

theorem quiet_fetchPaging (limit offset : Option Nat) (ordered : Bool) :
    Quiet (fetchPaging limit offset ordered).toList := by
  have order : Quiet (if ordered then "" else "ORDER BY (SELECT NULL) ").toList := by
    cases ordered with
    | _ => decide
  unfold fetchPaging
  split
  · exact Quiet.nothing
  · have skipping := ((order.followed (by decide : Quiet "OFFSET ".toList)).followed
      (.number (offset.getD 0))).followed (by decide : Quiet " ROWS".toList)
    refine skipping.followed ?_
    cases limit with
    | none => exact Quiet.nothing
    | some most => exact Quiet.followed (Quiet.followed (by decide) (.number most)) (by decide)

theorem quiet_paging (dialect : Dialect) (limit offset : Option Nat) (ordered : Bool) :
    Quiet (dialect.limitOffset limit offset ordered).toList := by
  cases dialect with
  | mssql => exact quiet_fetchPaging limit offset ordered
  | _ => exact quiet_standardPaging limit offset

end Dialect

end BoundQuery
