import BoundQuery.Proofs.CleanText
import BoundQuery.Proofs.Headings

/-!
Where the texts of a frame come from, and that each of them is clean: names are quoted or searched
for forbidden sequences, raw texts are searched, and what a dialect puts around them opens no seam.
-/

set_option autoImplicit false

namespace BoundQuery

/-- Whatever such a profile writes around a clean text is clean. -/
structure Profile.Tidy (profile : Profile) : Prop where
  placeholder : ∀ number, Sealed (profile.placeholder number).toList
  table : ∀ {name rendered : String}, profile.table name = .ok rendered → Clean rendered.toList
  column : ∀ {name rendered : String}, profile.column name = .ok rendered → Clean rendered.toList
  aliasName : ∀ {name rendered : String}, profile.aliasName name = .ok rendered →
    Clean rendered.toList
  extract : ∀ (part : DatePart) {column : String}, Clean column.toList →
    Clean (part.extract profile column).toList
  currentDate : Clean profile.currentDate.toList
  dateMinusDays : ∀ days, Clean (profile.dateMinusDays days).toList
  paging : ∀ limit offset ordered, Clean (profile.limitOffset limit offset ordered).toList

/-- What is read as a plain name is one; anything else was searched for forbidden sequences. -/
theorem Identifier.read_cases {kind name : String} {identifier : Identifier}
    (accepted : Identifier.read kind name = .ok identifier) :
    Identifier.isPlain (Text.trimChars name.toList) = true ∨
      (Clean (Text.trimChars name.toList) ∧
        identifier = .expression (String.ofList (Text.trimChars name.toList))) := by
  obtain ⟨_, harmless, own | ⟨_, _, rfl⟩⟩ := Identifier.read_eq_ok_iff.mp accepted
  · exact .inl own.1
  · exact .inr ⟨harmless, rfl⟩

theorem harmless_of_plainPart {part : List Char} (plain : Identifier.isPlainPart part = true) :
    ∀ char ∈ part, isHarmless char = true :=
  fun char member => harmless_of_isNamePart (isNamePart_of_isPlainPart plain char member)

theorem point_or_isNamePart {chars : List Char} (plain : Identifier.isPlain chars = true) :
    ∀ char ∈ chars, char = '.' ∨ Text.isNamePart char = true := by
  have parts : ∀ part ∈ chars.splitOn '.', Identifier.isPlainPart part = true := by
    unfold Identifier.isPlain at plain
    simp only [Bool.and_eq_true, List.all_eq_true] at plain
    exact plain.2
  intro char member
  rcases Text.eq_or_mem_splitOn member with point | ⟨part, listed, inside⟩
  · exact .inl point
  · exact .inr (isNamePart_of_isPlainPart (parts part listed) char inside)

theorem harmless_of_plain {chars : List Char} (plain : Identifier.isPlain chars = true) :
    ∀ char ∈ chars, isHarmless char = true := by
  intro char member
  rcases point_or_isNamePart plain char member with rfl | part
  · decide
  · exact harmless_of_isNamePart part

namespace Dialect

variable (dialect : Dialect)

theorem harmless_marks :
    isHarmless dialect.marks.1 = true ∧ isHarmless dialect.marks.2 = true := by
  cases dialect with
  | _ => decide

theorem mem_quotePart {part : String} {char : Char}
    (member : char ∈ (dialect.quotePart part).toList) :
    char = dialect.marks.1 ∨ char ∈ part.toList ∨ char = dialect.marks.2 := by
  rw [dialect.quotePart_eq] at member
  unfold enclosed doubled at member
  rw [String.toList_ofList, List.cons_append, List.mem_cons, List.mem_append,
    List.mem_singleton] at member
  refine member.imp_right (Or.imp_left fun inside => ?_)
  obtain ⟨source, listed, written⟩ := List.mem_flatMap.mp inside
  have same : char = source := by
    split at written
    · simpa using written
    · simpa using written
  rw [same]
  exact listed

theorem clean_quotePart {chars : List Char} (harmless : ∀ char ∈ chars, isHarmless char = true) :
    Clean (dialect.quotePart (String.ofList chars)).toList := by
  obtain ⟨opening, closing⟩ := dialect.harmless_marks
  refine clean_of_harmless fun char member => ?_
  rcases dialect.mem_quotePart member with rfl | inside | rfl
  · exact opening
  · rw [String.toList_ofList] at inside
    exact harmless char inside
  · exact closing

theorem clean_writtenName {parts : List (List Char)}
    (plain : ∀ part ∈ parts, Identifier.isPlainPart part = true) :
    Clean (writtenName (some dialect.marks) parts) := by
  obtain ⟨opening, closing⟩ := dialect.harmless_marks
  refine intercalate_of_joined clean_nil (fun own other => own.join (by decide) other)
    fun text member => ?_
  obtain ⟨part, listed, rfl⟩ := List.mem_map.mp member
  refine clean_of_harmless fun char inside => ?_
  change char ∈ dialect.marks.1 :: part ++ [dialect.marks.2] at inside
  rw [List.cons_append, List.mem_cons, List.mem_append, List.mem_singleton] at inside
  rcases inside with rfl | within | rfl
  · exact opening
  · exact harmless_of_plainPart (plain part listed) char within
  · exact closing

theorem clean_render {kind name : String} {identifier : Identifier}
    (accepted : Identifier.read kind name = .ok identifier) :
    Clean (identifier.render dialect.profile).toList := by
  rcases Identifier.read_cases accepted with plain | ⟨clean, rfl⟩
  · obtain ⟨part, others, split, plainParts⟩ := IsPlainName.parts plain
    rw [render_plain plain accepted, split]
    exact dialect.clean_writtenName plainParts
  · rw [Identifier.render, String.toList_ofList]
    exact clean

theorem clean_aliasName {name rendered : String}
    (accepted : dialect.profile.aliasName name = .ok rendered) : Clean rendered.toList := by
  obtain ⟨plain, rfl⟩ := aliasName_ok accepted
  exact dialect.clean_quotePart (harmless_of_plain plain)

theorem clean_extract (part : DatePart) {column : String} (own : Clean column.toList) :
    Clean (part.extract dialect.profile column).toList := by
  have around {before behind : String} (left : Sealed before.toList)
      (right : Opens behind.toList) : Clean (before ++ column ++ behind).toList :=
    (left.followed own).1.followed right
  cases part with
  | _ =>
      cases dialect with
      | _ => exact around (by decide) (by decide)

theorem clean_dateMinusDays (days : Nat) : Clean (dialect.dateMinusDays days).toList := by
  have written {before behind : String} (left : Clean before.toList)
      (right : Opens behind.toList) : Clean (before ++ toString days ++ behind).toList :=
    (left.followed (sealed_number days).2.1).followed right
  cases dialect with
  | _ => exact written (by decide) (by decide)

theorem sealed_placeholder (number : Nat) : Sealed (dialect.placeholder number).toList := by
  cases dialect with
  | postgresql => exact Sealed.closed (by decide) (sealed_number number)
  | mysql => exact (by decide : Sealed "?".toList)
  | sqlite => exact (by decide : Sealed "?".toList)
  | mssql => exact Sealed.closed (by decide) (sealed_number number)

theorem clean_standardPaging (limit offset : Option Nat) :
    Clean (standardPaging limit offset).toList := by
  have limiting (number : Nat) : Sealed ("LIMIT " ++ toString number).toList :=
    Sealed.closed (by decide) (sealed_number number)
  cases limit with
  | none =>
      cases offset with
      | none => exact clean_nil
      | some skipped => exact (Sealed.closed (by decide) (sealed_number skipped)).clean
  | some most =>
      cases offset with
      | none => exact (limiting most).clean
      | some skipped =>
          exact (((limiting most).closed (by decide)).closed (sealed_number skipped)).clean

theorem clean_fetchPaging (limit offset : Option Nat) (ordered : Bool) :
    Clean (fetchPaging limit offset ordered).toList := by
  have skipping (number : Nat) : Sealed ("OFFSET " ++ toString number ++ " ROWS").toList :=
    (Sealed.closed (by decide) (sealed_number number)).closed (by decide)
  have order : Clean (if ordered then "" else "ORDER BY (SELECT NULL) ").toList := by
    cases ordered with
    | _ => decide
  have fetching (number : Nat) :
      Sealed (" FETCH NEXT " ++ toString number ++ " ROWS ONLY").toList :=
    (Sealed.closed (by decide) (sealed_number number)).closed (by decide)
  unfold fetchPaging
  split
  · exact clean_nil
  · have front := order.followed (skipping (offset.getD 0)).2.1
    rw [← String.append_assoc, ← String.append_assoc] at front
    cases limit with
    | none => exact front.followed opens_nil
    | some most => exact front.followed (fetching most).2.1

theorem tidy : dialect.profile.Tidy where
  placeholder := dialect.sealed_placeholder
  table accepted := by
    obtain ⟨identifier, read, same⟩ := exists_of_bind_ok accepted
    cases same
    exact dialect.clean_render read
  column accepted := by
    obtain ⟨identifier, read, same⟩ := exists_of_bind_ok accepted
    cases same
    exact dialect.clean_render read
  aliasName := dialect.clean_aliasName
  extract := dialect.clean_extract
  currentDate := by
    cases dialect with
    | _ => decide
  dateMinusDays := dialect.clean_dateMinusDays
  paging limit offset ordered := by
    cases dialect with
    | mssql => exact clean_fetchPaging limit offset ordered
    | _ => exact clean_standardPaging limit offset

end Dialect

/-! ### The frame of a draft -/

structure Clauses.Tidy (frame : Clauses) : Prop where
  columns : ∀ column ∈ frame.columns, Clean column.toList
  source : ∀ source, frame.source = some source → Clean source.rendered.toList ∧
    ∀ aliasName, source.aliasName = some aliasName → Clean aliasName.toList
  joins : ∀ join ∈ frame.joins, Clean join.table.toList ∧
    ∀ condition, join.condition = some condition → Clean condition.toList
  groups : ∀ column ∈ frame.groups, Clean column.toList
  orders : ∀ order ∈ frame.orders, Clean order.column.toList
  delete : ∀ delete, frame.delete = some delete → Clean delete.table.toList

namespace Clauses

variable {profile : Profile} {frame next : Clauses}

theorem tidy_nothing : ({} : Clauses).Tidy where
  columns _ member := by cases member
  source _ found := by cases found
  joins _ member := by cases member
  groups _ member := by cases member
  orders _ member := by cases member
  delete _ found := by cases found

theorem clean_trimmed {text : String} (clean : Clean text.toList) :
    Clean (Text.trim text).toList := by
  unfold Text.trim
  rw [String.toList_ofList]
  exact Clean.of_within clean (trimChars_within _)

theorem forall_mem_concat {Item : Type} {test : Item → Prop} {items : List Item}
    {item : Item} (each : ∀ other ∈ items, test other) (own : test item) :
    ∀ other ∈ items ++ [item], test other :=
  List.forall_mem_append.mpr ⟨each, List.forall_mem_singleton.mpr own⟩

theorem sealed_operator (operator : Operator) : Sealed operator.text.toList := by
  cases operator with
  | _ => decide

theorem ends_compared {left : String} (own : Clean left.toList) (operator : Operator) :
    Ends (left ++ " " ++ operator.text ++ " ").toList :=
  ((own.followed (by decide)).followed (sealed_operator operator).2.1).closed (by decide)

theorem Tidy.opens_source (tidy : frame.Tidy) : Opens frame.sourceText.toList := by
  have source : Opens (frame.source.elim "" Source.text).toList := by
    cases given : frame.source with
    | none => exact opens_nil
    | some own =>
        obtain ⟨rendered, named⟩ := tidy.source own given
        refine Opens.followed (Sealed.followed (by decide) rendered) ?_
        cases aliased : own.aliasName with
        | none => exact opens_nil
        | some aliasName => exact Sealed.followed (by decide) (named aliasName aliased)
  have joined : ∀ joins : List Join, (∀ join ∈ joins, Clean join.table.toList ∧
      ∀ condition, join.condition = some condition → Clean condition.toList) →
        Opens (String.join (joins.map Join.text)).toList := by
    intro joins each
    induction joins with
    | nil => exact opens_nil
    | cons join rest ih =>
        obtain ⟨⟨table, condition⟩, others⟩ := List.forall_mem_cons.mp each
        have kind : Sealed (" " ++ join.kind.text ++ " ").toList := by
          cases join.kind with
          | _ => decide
        have own : Opens join.text.toList := by
          refine Opens.followed (kind.followed table) ?_
          cases given : join.condition with
          | none => exact opens_nil
          | some text => exact Sealed.followed (by decide) (condition text given)
        rw [List.map_cons, String.join_cons]
        exact own.followed (ih others)
  rw [frame.sourceText_eq]
  exact source.followed (joined frame.joins tidy.joins)

theorem Tidy.clean_projection (tidy : frame.Tidy) : Clean frame.projectionText.toList := by
  have distinct : Sealed ("SELECT " ++ if frame.distinct then "DISTINCT " else "").toList := by
    cases frame.distinct with
    | _ => decide
  refine (distinct.followed ?_).1
  split
  · decide
  · exact clean_commaSeparated tidy.columns

theorem Tidy.opens_group (tidy : frame.Tidy) : Opens frame.groupText.toList := by
  unfold groupText
  split
  · exact opens_nil
  · exact Sealed.followed (by decide) (clean_commaSeparated tidy.groups)

theorem Tidy.opens_order (tidy : frame.Tidy) : Opens frame.orderText.toList := by
  unfold orderText
  split
  · exact opens_nil
  · refine Sealed.followed (by decide) (clean_commaSeparated fun text member => ?_)
    obtain ⟨order, listed, rfl⟩ := List.mem_map.mp member
    have own := tidy.orders order listed
    unfold Order.text
    split
    · exact own
    · refine (own.followed (by decide)).followed ?_
      cases order.direction with
      | _ => decide

theorem opens_paging (written : profile.Tidy) (frame : Clauses) :
    Opens (frame.pagingText profile).toList := by
  unfold pagingText
  dsimp only
  split
  · exact opens_nil
  · exact Sealed.followed (by decide) (written.paging _ _ _)

end Clauses

end BoundQuery
