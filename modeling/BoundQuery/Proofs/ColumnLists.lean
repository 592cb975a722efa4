import BoundQuery.Proofs.CursorScope
import BoundQuery.Proofs.InsertedRows
import BoundQuery.Proofs.ResultNames
import BoundQuery.Proofs.Segments

/-!
Columns listed in one text. The text is cut at every comma, also at those between the parentheses of
a call, and each piece is then a column of its own. A list so means what its columns mean where each
of them is put together again from its own pieces as it was.
-/

set_option autoImplicit false

namespace BoundQuery

namespace Text

theorem trimChars_split (chars : List Char) : ∃ before after,
    (∀ char ∈ before, isBlank char = true) ∧ (∀ char ∈ after, isBlank char = true) ∧
      chars = before ++ trimChars chars ++ after := by
  have ends := List.takeWhile_append_dropWhile (p := isBlank) (l := (trimStartChars chars).reverse)
  have back : trimChars chars ++ ((trimStartChars chars).reverse.takeWhile isBlank).reverse =
      trimStartChars chars := by
    unfold trimChars trimEndChars
    rw [← List.reverse_append, ends, List.reverse_reverse]
  refine ⟨chars.takeWhile isBlank, ((trimStartChars chars).reverse.takeWhile isBlank).reverse,
    fun char member => List.mem_takeWhile_imp member,
    fun char member => List.mem_takeWhile_imp (List.mem_reverse.mp member), ?_⟩
  rw [List.append_assoc, back]
  exact List.takeWhile_append_dropWhile.symm

theorem trimChars_trimChars (chars : List Char) :
    trimChars (trimChars chars) = trimChars chars := by
  obtain ⟨before, after, blankBefore, blankAfter, split⟩ := trimChars_split chars
  have whole := congrArg trimChars split
  rw [trimChars_before blankAfter, trimChars_behind blankBefore] at whole
  exact whole.symm

end Text

/-! ### Pieces of a list -/

/-- What stands between the commas, less surrounding white space and what is then empty. -/
def commaPieces (chars : List Char) : List (List Char) :=
  ((chars.splitOn ',').map Text.trimChars).filter (fun piece => !piece.isEmpty)

/-- The columns that a text lists. -/
def columnTexts (text : String) : List String :=
  (commaPieces text.toList).map String.ofList

theorem selectColumns_eq (clauses : Clauses) (profile : Profile) (text : String) :
    clauses.selectColumns profile text = clauses.select profile (columnTexts text) :=
  rfl

theorem commaPieces_of_not_mem {chars : List Char} (whole : ',' ∉ chars) :
    commaPieces chars = [Text.trimChars chars].filter (fun piece => !piece.isEmpty) := by
  unfold commaPieces
  rw [List.splitOn_eq_singleton whole, List.map_singleton]

theorem commaPieces_between (front rest : List Char) :
    commaPieces (front ++ ',' :: rest) = commaPieces front ++ commaPieces rest := by
  unfold commaPieces
  rw [List.splitOn_append_cons_self, List.map_append, List.filter_append]

theorem comma_not_mem_blanks {blanks : List Char}
    (blank : ∀ char ∈ blanks, Text.isBlank char = true) : ',' ∉ blanks :=
  fun member => absurd (blank ',' member) (by decide)

theorem commaPieces_behind {blanks : List Char}
    (blank : ∀ char ∈ blanks, Text.isBlank char = true) (chars : List Char) :
    commaPieces (blanks ++ chars) = commaPieces chars := by
  have apart := comma_not_mem_blanks blank
  by_cases cut : ',' ∈ chars
  · obtain ⟨front, rest, rfl, whole⟩ := List.eq_append_cons_of_mem cut
    have wide : ',' ∉ blanks ++ front := by
      rw [List.mem_append, not_or]
      exact ⟨apart, whole⟩
    rw [← List.append_assoc, commaPieces_between, commaPieces_between,
      commaPieces_of_not_mem wide, commaPieces_of_not_mem whole, trimChars_behind blank]
  · have wide : ',' ∉ blanks ++ chars := by
      rw [List.mem_append, not_or]
      exact ⟨apart, cut⟩
    rw [commaPieces_of_not_mem wide, commaPieces_of_not_mem cut, trimChars_behind blank]

theorem commaPieces_before {blanks : List Char}
    (blank : ∀ char ∈ blanks, Text.isBlank char = true) (chars : List Char) :
    commaPieces (chars ++ blanks) = commaPieces chars := by
  have apart := comma_not_mem_blanks blank
  -- the induction goes from comma to comma, as only the last piece has the blanks
  by_cases cut : ',' ∈ chars
  · obtain ⟨front, rest, split, _⟩ := List.eq_append_cons_of_mem cut
    have shorter : rest.length < chars.length := by
      rw [split, List.length_append, List.length_cons]
      omega
    rw [split, List.append_assoc, List.cons_append, commaPieces_between, commaPieces_between,
      commaPieces_before blank rest]
  · have wide : ',' ∉ chars ++ blanks := by
      rw [List.mem_append, not_or]
      exact ⟨cut, apart⟩
    rw [commaPieces_of_not_mem wide, commaPieces_of_not_mem cut, trimChars_before blank]
termination_by chars.length

theorem commaPieces_trimChars (chars : List Char) :
    commaPieces (Text.trimChars chars) = commaPieces chars := by
  obtain ⟨before, after, blankBefore, blankAfter, split⟩ := Text.trimChars_split chars
  have whole := congrArg commaPieces split
  rw [commaPieces_before blankAfter, commaPieces_behind blankBefore] at whole
  exact whole.symm

theorem commaPieces_after_blank (chars : List Char) :
    commaPieces (' ' :: chars) = commaPieces chars :=
  commaPieces_behind (List.all_eq_true.mp (by decide : [' '].all Text.isBlank = true)) chars

theorem of_mem_commaPieces {chars piece : List Char} (member : piece ∈ commaPieces chars) :
    ',' ∉ piece ∧ Text.trimChars piece = piece ∧ piece ≠ [] := by
  obtain ⟨listed, some⟩ := List.mem_filter.mp member
  obtain ⟨field, cut, rfl⟩ := List.mem_map.mp listed
  refine ⟨fun inside => ?_, Text.trimChars_trimChars field, by simpa using some⟩
  exact Text.not_mem_of_mem_splitOn cut ((trimChars_within field).subset inside)

theorem of_mem_columnTexts {text own : String} (member : own ∈ columnTexts text) :
    ',' ∉ own.toList ∧ Text.trimChars own.toList = own.toList ∧ own.toList ≠ [] := by
  obtain ⟨piece, listed, rfl⟩ := List.mem_map.mp member
  rw [String.toList_ofList]
  exact of_mem_commaPieces listed

def listedBehind (columns : List String) : List Char :=
  columns.flatMap (fun column => ',' :: ' ' :: column.toList)

theorem toList_commaSeparated_cons (first : String) (rest : List String) :
    (commaSeparated (first :: rest)).toList = first.toList ++ listedBehind rest := by
  unfold commaSeparated
  induction rest generalizing first with
  | nil => rw [String.intercalate_singleton, listedBehind, List.flatMap_nil, List.append_nil]
  | cons next more ih =>
      rw [String.intercalate_cons_cons, String.toList_append, String.toList_append, ih,
        List.append_assoc]
      rfl

theorem splitOn_listedBehind (front : List Char) (columns : List String) :
    (front ++ listedBehind columns).splitOn ',' =
      front.splitOn ',' ++
        columns.flatMap (fun column => (' ' :: column.toList).splitOn ',') := by
  induction columns generalizing front with
  | nil => simp [listedBehind]
  | cons column rest ih =>
      have step : listedBehind (column :: rest) =
          ',' :: (' ' :: column.toList ++ listedBehind rest) := rfl
      rw [step, List.splitOn_append_cons_self, ih, List.flatMap_cons]

theorem columnTexts_commaSeparated (texts : List String) :
    columnTexts (commaSeparated texts) = texts.flatMap columnTexts := by
  cases texts with
  | nil => rfl
  | cons first rest =>
      have others : ((rest.flatMap (fun text => (' ' :: text.toList).splitOn ',')).map
          Text.trimChars).filter (fun piece => !piece.isEmpty) =
            rest.flatMap (fun text => commaPieces text.toList) := by
        rw [List.map_flatMap, List.filter_flatMap]
        exact List.flatMap_congr fun text _ => commaPieces_after_blank text.toList
      have pieces : commaPieces (commaSeparated (first :: rest)).toList =
          commaPieces first.toList ++ rest.flatMap (fun text => commaPieces text.toList) := by
        rw [toList_commaSeparated_cons, commaPieces, splitOn_listedBehind, List.map_append,
          List.filter_append, others]
        rfl
      unfold columnTexts
      rw [pieces, List.map_append, List.map_flatMap, List.flatMap_cons]

/-! ### Columns as they are written -/

namespace Profile

variable {profile : Profile}

/-- How a column is written where it is accepted. -/
def written (profile : Profile) (name : String) : String :=
  (profile.column name).toOption.getD ""

theorem written_of_ok {name rendered : String} (accepted : profile.column name = .ok rendered) :
    profile.written name = rendered := by
  unfold written
  rw [accepted]
  rfl

theorem columns_eq_ok_iff {names columns : List String} :
    profile.columns names = .ok columns ↔
      (∀ name ∈ names, profile.column name = .ok (profile.written name)) ∧
        columns = names.map profile.written := by
  unfold Profile.columns
  induction names generalizing columns with
  | nil => simp [pure, Except.pure, eq_comm]
  | cons name rest ih =>
      rw [List.mapM_cons, List.forall_mem_cons, List.map_cons]
      constructor
      · intro accepted
        obtain ⟨first, own, further⟩ := exists_of_bind_ok accepted
        obtain ⟨others, found, same⟩ := exists_of_bind_ok further
        obtain ⟨each, mapped⟩ := ih.mp found
        cases same
        rw [written_of_ok own, mapped]
        exact ⟨⟨own, each⟩, rfl⟩
      · rintro ⟨⟨own, each⟩, rfl⟩
        rw [own, ih.mpr ⟨each, rfl⟩]
        rfl

theorem column_trim {name rendered : String} (accepted : profile.column name = .ok rendered)
    {other : String} (same : Text.trimChars other.toList = Text.trimChars name.toList) :
    profile.column other = .ok rendered := by
  obtain ⟨identifier, read, shown⟩ := exists_of_bind_ok accepted
  have again : Identifier.readColumn other = .ok identifier := by
    rw [Identifier.readColumn, Identifier.read_eq_ok_iff, IsPlainName, Text.trim] at read ⊢
    rwa [same]
  unfold Profile.column
  rw [again]
  exact shown

theorem trimChars_ne_nil {name rendered : String} (accepted : profile.column name = .ok rendered) :
    Text.trimChars name.toList ≠ [] := by
  obtain ⟨identifier, read, _⟩ := exists_of_bind_ok accepted
  exact (Identifier.read_eq_ok_iff.mp read).1

end Profile

theorem mem_trimChars {chars : List Char} {char : Char} (visible : Text.isBlank char = false)
    (member : char ∈ chars) : char ∈ Text.trimChars chars := by
  obtain ⟨before, after, blankBefore, blankAfter, split⟩ := Text.trimChars_split chars
  have none {blanks : List Char} (blank : ∀ char ∈ blanks, Text.isBlank char = true) :
      char ∉ blanks := fun inside => by rw [blank char inside] at visible; cases visible
  rw [split, List.mem_append, List.mem_append] at member
  rcases member with (inBefore | inside) | inAfter
  · exact absurd inBefore (none blankBefore)
  · exact inside
  · exact absurd inAfter (none blankAfter)

theorem IsPlainName.spelled {name : String} (plain : IsPlainName name) {char : Char}
    (member : char ∈ Text.trimChars name.toList) : char ≠ ',' ∧ isClosingQuote char = false := by
  rcases point_or_isNamePart plain char member with rfl | namePart
  · decide
  · have quote := isTableQuote_of_isNamePart namePart
    unfold isTableQuote at quote
    rw [Bool.or_eq_false_iff] at quote
    exact ⟨ne_of_isNamePart namePart ',' (by decide), quote.2⟩

theorem not_isPlainName_of_comma {text : String} (cut : ',' ∈ text.toList) : ¬IsPlainName text :=
  fun plain => (plain.spelled (mem_trimChars (by decide) cut)).1 rfl

theorem readColumn_of_not_plain {profile : Profile} {name rendered : String}
    (other : ¬IsPlainName name) (accepted : profile.column name = .ok rendered) :
    Identifier.readColumn name = .ok (.expression (Text.trim name)) := by
  obtain ⟨identifier, read, _⟩ := exists_of_bind_ok accepted
  obtain ⟨_, _, plain | ⟨_, _, shown⟩⟩ := Identifier.read_eq_ok_iff.mp read
  · exact absurd plain.1 other
  · rw [← shown]
    exact read

theorem isBlank_of_isClosingQuote {char : Char} (closing : isClosingQuote char = true) :
    Text.isBlank char = false := by
  simp only [isClosingQuote, Bool.or_eq_true, beq_iff_eq] at closing
  rcases closing with (rfl | rfl) | rfl <;> decide

variable {dialect : Dialect}

theorem comma_not_mem_written {name rendered : String} (whole : ',' ∉ name.toList)
    (accepted : dialect.profile.column name = .ok rendered) : ',' ∉ rendered.toList := by
  by_cases plain : IsPlainName name
  · obtain ⟨first, others, split, plainParts⟩ := plain.parts
    have bare : dialect.marks.1 ≠ ',' ∧ dialect.marks.2 ≠ ',' := by
      cases dialect with
      | _ => decide
    rw [column_plain plain accepted, split]
    refine @intercalate_of_joined (fun chars => ',' ∉ chars) ['.'] List.not_mem_nil ?_ _ ?_
    · intro left right own further
      simp [own, further]
    · intro chars member
      obtain ⟨part, listed, rfl⟩ := List.mem_map.mp member
      have inside : ',' ∉ part := fun comma =>
        ne_of_isNamePart (isNamePart_of_isPlainPart (plainParts part listed) ',' comma) ','
          (by decide) rfl
      simp [around, inside, bare.1.symm, bare.2.symm]
  · rw [column_as_written plain accepted]
    exact fun member => whole ((trimChars_within _).subset member)

/-- The column has no comma, or each piece of it is an expression, and a single space stands behind
each comma. -/
def StaysWhole (text : String) : Prop :=
  ',' ∉ text.toList ∨
    (Text.trim text = commaSeparated (columnTexts text) ∧
      ∀ own ∈ columnTexts text, Identifier.readColumn own = .ok (.expression own))

theorem listedBehind_eq {columns : List String} (some : columns ≠ []) :
    listedBehind columns = ',' :: ' ' :: (commaSeparated columns).toList := by
  obtain ⟨first, rest, rfl⟩ := List.exists_cons_of_ne_nil some
  rw [toList_commaSeparated_cons]
  rfl

theorem columnTexts_of_not_mem {profile : Profile} {text rendered : String}
    (whole : ',' ∉ text.toList) (accepted : profile.column text = .ok rendered) :
    columnTexts text = [Text.trim text] := by
  have some := Profile.trimChars_ne_nil accepted
  unfold columnTexts
  rw [commaPieces_of_not_mem whole]
  simp [some, Text.trim]

theorem StaysWhole.written_pieces {profile : Profile} {text : String} (whole : StaysWhole text)
    (accepted : profile.column text = .ok (profile.written text)) :
    (∀ own ∈ columnTexts text, profile.column own = .ok (profile.written own)) ∧
      listedBehind ((columnTexts text).map profile.written) =
        listedBehind [profile.written text] := by
  by_cases cut : ',' ∈ text.toList
  · obtain ⟨spaced, each⟩ := whole.resolve_left fun none => none cut
    have bare : ∀ own ∈ columnTexts text, profile.column own = .ok own := by
      intro own member
      unfold Profile.column
      rw [each own member]
      rfl
    have mapped : (columnTexts text).map profile.written = columnTexts text :=
      (List.map_congr_left fun own member => Profile.written_of_ok (bare own member)).trans
        (List.map_id _)
    have shown : profile.written text = commaSeparated (columnTexts text) := by
      rw [← spaced, ← String.toList_inj, column_as_written (not_isPlainName_of_comma cut) accepted]
      exact String.toList_ofList.symm
    have some : columnTexts text ≠ [] := by
      intro none
      have trimmed := Profile.trimChars_ne_nil accepted
      rw [← column_as_written (not_isPlainName_of_comma cut) accepted, shown, none] at trimmed
      exact trimmed rfl
    refine ⟨fun own member => ?_, ?_⟩
    · rw [Profile.written_of_ok (bare own member)]
      exact bare own member
    · rw [mapped, shown, listedBehind_eq some, listedBehind_eq (List.cons_ne_nil _ [])]
      rw [commaSeparated, commaSeparated, String.intercalate_singleton]
  · have same : Text.trimChars (Text.trim text).toList = Text.trimChars text.toList := by
      rw [Text.trim, String.toList_ofList, Text.trimChars_trimChars]
    have own := Profile.column_trim accepted same
    rw [columnTexts_of_not_mem cut accepted, List.map_singleton, Profile.written_of_ok own]
    refine ⟨fun other member => ?_, rfl⟩
    rw [List.mem_singleton.mp member, Profile.written_of_ok own]
    exact own

theorem written_pieces_of_staysWhole {profile : Profile} {texts : List String}
    (each : ∀ text ∈ texts, profile.column text = .ok (profile.written text))
    (whole : ∀ text ∈ texts, StaysWhole text) :
    (∀ own ∈ texts.flatMap columnTexts, profile.column own = .ok (profile.written own)) ∧
      listedBehind ((texts.flatMap columnTexts).map profile.written) =
        listedBehind (texts.map profile.written) := by
  constructor
  · intro own member
    obtain ⟨text, listed, inside⟩ := List.mem_flatMap.mp member
    exact ((whole text listed).written_pieces (each text listed)).1 own inside
  · unfold listedBehind
    rw [List.map_flatMap, List.flatMap_assoc, List.flatMap_map]
    refine List.flatMap_congr fun text listed => ?_
    have own := ((whole text listed).written_pieces (each text listed)).2
    unfold listedBehind at own
    rwa [List.flatMap_singleton] at own

/-! ### Columns that agree in a list -/

theorem splitOn_after_blank {chars : List Char} (whole : ',' ∉ chars) :
    (' ' :: chars).splitOn ',' = [' ' :: chars] :=
  List.splitOn_eq_singleton (by simp [whole])

theorem listedBehind_of_splitOn {columns : List String} {chars : List Char}
    (whole : ∀ column ∈ columns, ',' ∉ column.toList)
    (same : (' ' :: chars).splitOn ',' =
      columns.map (fun column => ' ' :: column.toList)) :
    listedBehind columns = ',' :: ' ' :: chars := by
  have uncut : columns.flatMap (fun column => (' ' :: column.toList).splitOn ',') =
      columns.map (fun column => ' ' :: column.toList) := by
    rw [List.map_eq_flatMap]
    exact List.flatMap_congr fun column member => splitOn_after_blank (whole column member)
  have left := splitOn_listedBehind [] columns
  have right := List.splitOn_append_cons_self (a := ',') [] (' ' :: chars)
  rw [List.nil_append] at left right
  apply Text.splitOn_injective ','
  rw [left, right, same, uncut]

theorem length_flatMap_le {Source Target : Type} {items : List Source}
    {first second : Source → List Target}
    (shorter : ∀ item ∈ items, (second item).length ≤ (first item).length) :
    (items.flatMap second).length ≤ (items.flatMap first).length := by
  induction items with
  | nil => exact Nat.le_refl 0
  | cons item rest ih =>
      obtain ⟨own, others⟩ := List.forall_mem_cons.mp shorter
      rw [List.flatMap_cons, List.flatMap_cons, List.length_append, List.length_append]
      exact Nat.add_le_add own (ih others)

/-- The items agree one by one if together they agree and none has more in the second than in the
first. -/
theorem eq_of_flatMap_eq {Source Target : Type} {items : List Source}
    {first second : Source → List Target}
    (same : items.flatMap first = items.flatMap second)
    (shorter : ∀ item ∈ items, (second item).length ≤ (first item).length) :
    ∀ item ∈ items, first item = second item := by
  induction items with
  | nil => simp
  | cons item rest ih =>
      obtain ⟨own, others⟩ := List.forall_mem_cons.mp shorter
      rw [List.flatMap_cons, List.flatMap_cons] at same
      have further := length_flatMap_le others
      have whole := congrArg List.length same
      rw [List.length_append, List.length_append] at whole
      obtain ⟨here, there⟩ := List.append_inj same (by omega)
      exact List.forall_mem_cons.mpr ⟨here, ih there others⟩

section Listed

variable {text : String}
  (accepted : dialect.profile.column text = .ok (dialect.profile.written text))
include accepted

theorem length_columnTexts_le :
    (columnTexts text).length ≤
      ((' ' :: (dialect.profile.written text).toList).splitOn ',').length := by
  by_cases cut : ',' ∈ text.toList
  · rw [column_as_written (not_isPlainName_of_comma cut) accepted, columnTexts, List.length_map,
      ← commaPieces_trimChars, ← commaPieces_after_blank]
    exact (List.length_filter_le _ _).trans (Nat.le_of_eq (List.length_map _))
  · rw [columnTexts_of_not_mem cut accepted,
      splitOn_after_blank (comma_not_mem_written cut accepted), List.length_singleton,
      List.length_singleton]

variable (each : ∀ own ∈ columnTexts text,
    dialect.profile.column own = .ok (dialect.profile.written own))
  (same : (' ' :: (dialect.profile.written text).toList).splitOn ',' =
    (columnTexts text).map (fun own => ' ' :: (dialect.profile.written own).toList))
include each same

theorem trimChars_written (cut : ',' ∈ text.toList) : ∀ own ∈ columnTexts text,
    Text.trimChars (dialect.profile.written own).toList = own.toList := by
  have visible : ∀ own ∈ columnTexts text,
      Text.trimChars (dialect.profile.written own).toList ≠ [] := by
    intro own member
    by_cases plain : IsPlainName own
    · obtain ⟨front, mark, shown, closing⟩ := column_endsQuoted plain (each own member)
      have inside : mark ∈ (dialect.profile.written own).toList := by
        rw [shown]
        exact List.mem_append_right _ (List.mem_singleton_self mark)
      exact List.ne_nil_of_mem (mem_trimChars (isBlank_of_isClosingQuote closing) inside)
    · rw [column_as_written plain (each own member), Text.trimChars_trimChars]
      exact Profile.trimChars_ne_nil (each own member)
  have trimmed : (columnTexts text).map (fun own =>
      Text.trimChars (dialect.profile.written own).toList) = commaPieces text.toList := by
    rw [← commaPieces_trimChars, ← commaPieces_after_blank,
      ← column_as_written (not_isPlainName_of_comma cut) accepted]
    generalize dialect.profile.written text = rendered at same
    unfold commaPieces
    rw [same, List.map_map, List.filter_eq_self.mpr]
    · refine List.map_congr_left fun own _ => ?_
      rw [Function.comp_apply, trimChars_after_blank]
    · intro piece member
      obtain ⟨own, listed, rfl⟩ := List.mem_map.mp member
      rw [Function.comp_apply, trimChars_after_blank]
      simpa using visible own listed
  have texts : (columnTexts text).map String.toList = commaPieces text.toList := by
    rw [columnTexts, List.map_map]
    exact (List.map_congr_left fun piece _ => String.toList_ofList).trans (List.map_id _)
  exact List.map_eq_map_iff.mp (trimmed.trans texts.symm)

theorem staysWhole_of_splitOn : StaysWhole text := by
  by_cases cut : ',' ∈ text.toList
  · have found := trimChars_written accepted each same cut
    have other : ∀ own ∈ columnTexts text, ¬IsPlainName own := by
      intro own member plain
      obtain ⟨front, mark, shown, closing⟩ := column_endsQuoted plain (each own member)
      have inside : mark ∈ Text.trimChars own.toList := by
        rw [(of_mem_columnTexts member).2.1, ← found own member, shown]
        exact mem_trimChars (isBlank_of_isClosingQuote closing)
          (List.mem_append_right _ (List.mem_singleton_self mark))
      rw [(plain.spelled inside).2] at closing
      cases closing
    have bare : ∀ own ∈ columnTexts text, dialect.profile.written own = own := by
      intro own member
      rw [← String.toList_inj, column_as_written (other own member) (each own member)]
      exact (of_mem_columnTexts member).2.1
    have some : columnTexts text ≠ [] := by
      intro none
      rw [none] at same
      exact List.splitOn_ne_nil _ _ same
    have mapped : (columnTexts text).map (fun own =>
        ' ' :: (dialect.profile.written own).toList) =
          (columnTexts text).map (fun own => ' ' :: own.toList) :=
      List.map_congr_left fun own member => by rw [bare own member]
    have pieces := listedBehind_of_splitOn (fun own member => (of_mem_columnTexts member).1)
      (same.trans mapped)
    rw [listedBehind_eq some, column_as_written (not_isPlainName_of_comma cut) accepted] at pieces
    refine .inr ⟨?_, fun own member => ?_⟩
    · rw [← String.toList_inj, (List.cons.inj (List.cons.inj pieces).2).2]
      exact String.toList_ofList
    · rw [readColumn_of_not_plain (other own member) (each own member), Text.trim,
        (of_mem_columnTexts member).2.1, String.ofList_toList]
  · exact .inl cut

end Listed

/-- Where a list is written as its columns are, it has kept each of them. -/
theorem staysWhole_of_listedBehind {texts : List String}
    (accepted : ∀ text ∈ texts, dialect.profile.column text = .ok (dialect.profile.written text))
    (each : ∀ own ∈ texts.flatMap columnTexts,
      dialect.profile.column own = .ok (dialect.profile.written own))
    (same : listedBehind (texts.map dialect.profile.written) =
      listedBehind ((texts.flatMap columnTexts).map dialect.profile.written)) :
    ∀ text ∈ texts, StaysWhole text := by
  have own : ∀ text ∈ texts, ∀ piece ∈ columnTexts text,
      dialect.profile.column piece = .ok (dialect.profile.written piece) :=
    fun text member piece listed => each piece (List.mem_flatMap.mpr ⟨text, member, listed⟩)
  have uncut : ∀ text ∈ texts, (columnTexts text).flatMap (fun piece =>
      (' ' :: (dialect.profile.written piece).toList).splitOn ',') =
        (columnTexts text).map (fun piece => ' ' :: (dialect.profile.written piece).toList) := by
    intro text member
    rw [List.map_eq_flatMap]
    exact List.flatMap_congr fun piece listed => splitOn_after_blank
      (comma_not_mem_written (of_mem_columnTexts listed).1 (own text member piece listed))
  have fields := congrArg (List.splitOn ',') same
  rw [← List.nil_append (listedBehind _), splitOn_listedBehind, ← List.nil_append (listedBehind _),
    splitOn_listedBehind, List.append_cancel_left_eq, List.flatMap_map, List.flatMap_map,
    List.flatMap_assoc, List.flatMap_congr uncut] at fields
  have apart := eq_of_flatMap_eq fields fun text member => by
    rw [List.length_map]
    exact length_columnTexts_le (accepted text member)
  exact fun text member =>
    staysWhole_of_splitOn (accepted text member) (own text member) (apart text member)

def projected (columns : List String) : String :=
  if columns.isEmpty then "*" else commaSeparated columns

theorem compile_columns (profile : Profile) (clauses : Clauses) {columns others : List String}
    (same : projected columns = projected others) :
    ({ clauses with columns := columns } : Clauses).compile profile =
      ({ clauses with columns := others } : Clauses).compile profile := by
  have projection : ({ clauses with columns := columns } : Clauses).projectionText =
      ({ clauses with columns := others } : Clauses).projectionText :=
    congrArg (("SELECT " ++ if clauses.distinct then "DISTINCT " else "") ++ ·) same
  unfold Clauses.compile Clauses.pieces Clauses.selectPieces
  rw [projection]
  rfl

theorem compile_query {profile : Profile} {clauses : Clauses} (query : clauses.raw = none)
    (idle : clauses.isWrite = false) {statement : Statement}
    (compiled : clauses.compile profile = .ok statement) :
    ∃ front behind, ∀ columns,
      ({ clauses with columns := columns } : Clauses).compile profile =
        .ok ⟨String.ofList (front ++ ((projected columns).toList ++ behind)),
          statement.bindings⟩ := by
  obtain ⟨insert, update, delete⟩ : clauses.insert = none ∧ clauses.update = none ∧
      clauses.delete = none := by
    simpa [Clauses.isWrite, and_assoc] using idle
  unfold Clauses.compile Clauses.pieces at compiled
  rw [query, insert, update, delete] at compiled
  obtain ⟨pieces, built, same⟩ := exists_of_bind_ok compiled
  obtain ⟨wheres, conditions, further⟩ := exists_of_bind_ok built
  obtain ⟨havings, filters, shown⟩ := exists_of_bind_ok further
  cases shown
  cases same
  generalize behindSource : Piece.writeFrom profile.placeholder 1
    (wheres ++ .sql clauses.groupText :: havings ++
      [.sql (clauses.orderText ++ clauses.pagingText profile)]) = rest
  refine ⟨("SELECT " ++ if clauses.distinct then "DISTINCT " else "").toList,
    clauses.sourceText.toList ++ rest, fun columns => ?_⟩
  have written : ("SELECT " ++ (if clauses.distinct then "DISTINCT " else "") ++
      projected columns ++ clauses.sourceText).toList ++ rest =
        ("SELECT " ++ if clauses.distinct then "DISTINCT " else "").toList ++
          ((projected columns).toList ++ (clauses.sourceText.toList ++ rest)) := by
    simp only [String.toList_append, List.append_assoc]
  rw [← written, ← behindSource]
  unfold Clauses.compile Clauses.pieces Clauses.selectPieces
  simp only [query, insert, update, delete, conditions, filters]
  rfl

theorem projected_of_compile {profile : Profile} {clauses : Clauses} (query : clauses.raw = none)
    (idle : clauses.isWrite = false) {columns others : List String} {statement : Statement}
    (compiled : ({ clauses with columns := columns } : Clauses).compile profile = .ok statement)
    (again : ({ clauses with columns := others } : Clauses).compile profile = .ok statement) :
    projected columns = projected others := by
  obtain ⟨front, behind, written⟩ :=
    @compile_query profile { clauses with columns := columns } query idle statement compiled
  have same := (written columns).symm.trans (compiled.trans (again.symm.trans (written others)))
  simpa using same

theorem listedBehind_eq_nil_iff {columns : List String} :
    listedBehind columns = [] ↔ columns = [] := by
  constructor
  · intro nothing
    by_contra some
    rw [listedBehind_eq some] at nothing
    exact List.cons_ne_nil _ _ nothing
  · rintro rfl
    rfl

theorem projected_of_listedBehind {columns others : List String}
    (same : listedBehind columns = listedBehind others) : projected columns = projected others := by
  by_cases none : columns = []
  · rw [none, listedBehind_eq_nil_iff.mpr rfl, eq_comm, listedBehind_eq_nil_iff] at same
    rw [none, same]
  · have some : others ≠ [] := fun empty => none <| by
      rwa [empty, listedBehind_eq_nil_iff.mpr rfl, listedBehind_eq_nil_iff] at same
    rw [listedBehind_eq none, listedBehind_eq some] at same
    unfold projected
    rw [if_neg (by simpa using none), if_neg (by simpa using some), ← String.toList_inj]
    exact (List.cons.inj (List.cons.inj same).2).2

theorem listedBehind_of_projected {columns others : List String} (some : columns ≠ [])
    (other : others ≠ []) (same : projected columns = projected others) :
    listedBehind columns = listedBehind others := by
  unfold projected at same
  rw [if_neg (by simpa using some), if_neg (by simpa using other)] at same
  rw [listedBehind_eq some, listedBehind_eq other, same]

theorem columnTexts_ne_nil {texts : List String} (some : texts ≠ [])
    (accepted : ∀ text ∈ texts, dialect.profile.column text = .ok (dialect.profile.written text))
    (same : projected (texts.map dialect.profile.written) =
      projected ((texts.flatMap columnTexts).map dialect.profile.written)) :
    texts.flatMap columnTexts ≠ [] := by
  obtain ⟨text, rest, rfl⟩ := List.exists_cons_of_ne_nil some
  intro none
  have own := accepted text List.mem_cons_self
  have cut : ',' ∈ text.toList := by
    by_contra whole
    have pieces := List.flatMap_eq_nil_iff.mp none text List.mem_cons_self
    rw [columnTexts_of_not_mem whole own] at pieces
    cases pieces
  have star : (dialect.profile.written text).toList ++
      listedBehind (rest.map dialect.profile.written) = ['*'] := by
    rw [← toList_commaSeparated_cons, ← List.map_cons]
    rw [none] at same
    exact (congrArg String.toList same).trans (by simp [projected])
  have comma : ',' ∈ ['*'] := by
    rw [← star, List.mem_append, column_as_written (not_isPlainName_of_comma cut) own]
    exact .inl (mem_trimChars (by decide) cut)
  exact absurd comma (by decide)

namespace Builder

/-- The columns in one text give the statement that they give one by one. -/
def ListAgrees (builder : Builder) (texts : List String) (selected : Builder) : Prop :=
  ∃ listed, builder.apply (.selectColumns (", ".intercalate texts)) = .ok listed ∧
    listed.statement = selected.statement

theorem apply_selectColumns (builder : Builder) (texts : List String) :
    builder.apply (.selectColumns (", ".intercalate texts)) =
      builder.apply (.select (texts.flatMap columnTexts)) := by
  rw [← columnTexts_commaSeparated]
  simp only [apply, selectColumns_eq]
  rfl

theorem apply_select_eq_ok_iff {builder selected : Builder} {texts : List String} :
    builder.apply (.select texts) = .ok selected ↔
      (∀ text ∈ texts, builder.profile.column text = .ok (builder.profile.written text)) ∧
        selected = { builder with
          clauses := { builder.clauses with columns := texts.map builder.profile.written } } := by
  simp only [apply]
  constructor
  · intro done
    obtain ⟨clauses, made, rfl⟩ := with?_eq_ok done
    obtain ⟨columns, read, same⟩ := exists_of_bind_ok made
    obtain ⟨each, rfl⟩ := Profile.columns_eq_ok_iff.mp read
    cases same
    exact ⟨each, rfl⟩
  · rintro ⟨each, rfl⟩
    unfold Clauses.select
    rw [Profile.columns_eq_ok_iff.mpr ⟨each, rfl⟩]
    rfl

end Builder

/-- Every piece between two commas is read as a column of its own. So the list of some columns gives
their statement if each of them stays whole, and in a query for a built-in dialect only then. -/
theorem comma_list_agrees_where_columns_stay_whole {builder selected : Builder}
    {texts : List String} (accepted : builder.apply (.select texts) = .ok selected) :
    builder.apply (.selectColumns (", ".intercalate texts)) =
        builder.apply (.select (texts.flatMap columnTexts)) ∧
      ((∀ text ∈ texts, StaysWhole text) → builder.ListAgrees texts selected) ∧
      ∀ (dialect : Dialect) (statement : Statement), builder.profile = dialect.profile →
        builder.clauses.raw = none → builder.clauses.isWrite = false →
        selected.statement = .ok statement → builder.ListAgrees texts selected →
          ∀ text ∈ texts, StaysWhole text := by
  obtain ⟨each, rfl⟩ := Builder.apply_select_eq_ok_iff.mp accepted
  refine ⟨builder.apply_selectColumns texts, fun whole => ?_, ?_⟩
  · obtain ⟨pieces, same⟩ := written_pieces_of_staysWhole each whole
    refine ⟨_, (builder.apply_selectColumns texts).trans
      (Builder.apply_select_eq_ok_iff.mpr ⟨pieces, rfl⟩), ?_⟩
    exact compile_columns builder.profile builder.clauses (projected_of_listedBehind same)
  · rintro dialect statement profile query idle compiled ⟨listed, done, agree⟩
    rw [builder.apply_selectColumns] at done
    obtain ⟨pieces, rfl⟩ := Builder.apply_select_eq_ok_iff.mp done
    have same := projected_of_compile query idle compiled (agree.trans compiled)
    rw [profile] at each pieces same
    by_cases none : texts = []
    · rw [none]
      exact fun text member => by cases member
    · have some := columnTexts_ne_nil none each same
      refine staysWhole_of_listedBehind each pieces (listedBehind_of_projected ?_ ?_ same)
      · simpa using none
      · simpa using some

/-- A call of calls stays whole, as each of its pieces has a parenthesis; one of three plain names
does not. -/
theorem nested_calls_stay_whole :
    ({ profile := Dialect.sqlite.profile } : Builder).ListAgrees
        ["id", "COALESCE(MAX(a.x), MIN(b.y)) AS z"]
        { profile := Dialect.sqlite.profile
          clauses := { columns := ["\"id\"", "COALESCE(MAX(a.x), MIN(b.y)) AS z"] } } ∧
      ¬({ profile := Dialect.sqlite.profile } : Builder).ListAgrees ["COALESCE(a, b, c)"]
        { profile := Dialect.sqlite.profile
          clauses := { columns := ["COALESCE(a, b, c)"] } } := by
  constructor
  · have accepted : ({ profile := Dialect.sqlite.profile } : Builder).apply
        (.select ["id", "COALESCE(MAX(a.x), MIN(b.y)) AS z"]) =
          .ok { profile := Dialect.sqlite.profile
                clauses := { columns := ["\"id\"", "COALESCE(MAX(a.x), MIN(b.y)) AS z"] } } := by
      rfl
    obtain ⟨_, agrees, _⟩ := comma_list_agrees_where_columns_stay_whole accepted
    refine agrees (List.forall_mem_cons.mpr ⟨.inl (by decide), List.forall_mem_singleton.mpr ?_⟩)
    have pieces : columnTexts "COALESCE(MAX(a.x), MIN(b.y)) AS z" =
        ["COALESCE(MAX(a.x)", "MIN(b.y)) AS z"] := by decide
    refine .inr ⟨by decide, ?_⟩
    rw [pieces]
    exact List.forall_mem_cons.mpr ⟨by rfl, List.forall_mem_singleton.mpr (by rfl)⟩
  · have accepted : ({ profile := Dialect.sqlite.profile } : Builder).apply
        (.select ["COALESCE(a, b, c)"]) =
          .ok { profile := Dialect.sqlite.profile
                clauses := { columns := ["COALESCE(a, b, c)"] } } := by
      rfl
    obtain ⟨_, _, whole⟩ := comma_list_agrees_where_columns_stay_whole accepted
    intro agrees
    have kept := whole .sqlite ⟨"SELECT COALESCE(a, b, c)", []⟩ rfl rfl rfl (by rfl) agrees
      "COALESCE(a, b, c)" (List.mem_singleton_self _)
    obtain ⟨_, each⟩ := kept.resolve_left (by decide)
    have quoted : Identifier.readColumn "b" = .ok (.plain "b") := by rfl
    have bare := each "b" (by decide)
    rw [quoted] at bare
    cases bare

/-- What is behind the first comma of a call is no column of its own. -/
theorem call_with_plain_arguments_is_not_listed :
    ({ profile := Dialect.sqlite.profile } : Builder).apply (.select ["COALESCE(a, b)"]) =
        .ok { profile := Dialect.sqlite.profile
              clauses := { columns := ["COALESCE(a, b)"] } } ∧
      ({ profile := Dialect.sqlite.profile } : Builder).apply (.selectColumns "COALESCE(a, b)") =
        .error (.invalidIdentifier "column" "b)") :=
  ⟨by rfl, by rfl⟩

end BoundQuery
