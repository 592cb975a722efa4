import BoundQuery.Proofs.Alignment
import Mathlib.Data.List.Forall2
import Mathlib.Data.List.Induction
import Mathlib.Data.List.Nodup
import Mathlib.Data.List.Perm.Subperm

/-!
Where an insertion puts the cells of its records. The first record fixes the columns; each record
fills one tuple in their order, whatever its own order is, and the placeholders are numbered through
all the tuples.
-/

set_option autoImplicit false

namespace BoundQuery

namespace Record

theorem columns_insert (record : Record) (name : String) (value : Value) :
    (record.insert name value).columns =
      if name ∈ record.columns then record.columns else record.columns ++ [name] := by
  have named : record.any (fun cell => cell.1 == name) = true ↔ name ∈ record.columns := by
    rw [List.any_eq_true]
    constructor
    · rintro ⟨cell, member, same⟩
      exact List.mem_map.mpr ⟨cell, member, beq_iff_eq.mp same⟩
    · intro member
      obtain ⟨cell, there, same⟩ := List.mem_map.mp member
      exact ⟨cell, there, beq_iff_eq.mpr same⟩
  unfold insert
  by_cases there : name ∈ record.columns
  · rw [if_pos (named.mpr there), if_pos there]
    unfold columns
    rw [List.map_map]
    apply List.map_congr_left
    intro cell _
    by_cases same : cell.1 = name
    · simp [same]
    · simp [same]
  · rw [if_neg (named.not.mpr there), if_neg there]
    exact List.map_append

theorem nodup_columns_ofCells (cells : List (String × Value)) : (ofCells cells).columns.Nodup := by
  unfold ofCells
  induction cells using List.reverseRecOn with
  | nil => exact List.nodup_nil
  | append_singleton cells cell ih =>
      rw [List.foldl_append, List.foldl_cons, List.foldl_nil, columns_insert]
      split
      · exact ih
      · rename_i absent
        exact List.Nodup.append ih (List.nodup_singleton _)
          (fun name there last => absent (List.mem_singleton.mp last ▸ there))

theorem mem_columns_iff {record : Record} {name : String} :
    name ∈ record.columns ↔ (record.lookup name).isSome = true := by
  rw [List.lookup_isSome_iff]
  unfold columns
  rw [List.mem_map]
  constructor
  · rintro ⟨cell, member, rfl⟩
    exact ⟨cell, member, beq_self_eq_true _⟩
  · rintro ⟨cell, member, same⟩
    exact ⟨cell, member, (beq_iff_eq.mp same).symm⟩

end Record

theorem forall₂_read_iff {Source Target : Type} {read : Source → Option Target}
    {sources : List Source} : ∀ {targets : List Target},
      List.Forall₂ (fun source target => read source = some target) sources targets ↔
        (∀ source ∈ sources, (read source).isSome = true) ∧
          sources.filterMap read = targets := by
  induction sources with
  | nil =>
      intro targets
      rw [List.forall₂_nil_left_iff, List.filterMap_nil]
      exact ⟨fun same => ⟨fun _ member => (by cases member), same.symm⟩, fun both => both.2.symm⟩
  | cons source rest ih =>
      intro targets
      rw [List.forall₂_cons_left_iff, List.forall_mem_cons]
      constructor
      · rintro ⟨target, others, own, found, rfl⟩
        obtain ⟨defined, rfl⟩ := ih.mp found
        exact ⟨⟨Option.isSome_of_eq_some own, defined⟩, List.filterMap_cons_some own⟩
      · rintro ⟨⟨own, defined⟩, rfl⟩
        obtain ⟨target, read⟩ := Option.isSome_iff_exists.mp own
        exact ⟨target, _, read, ih.mpr ⟨defined, rfl⟩, List.filterMap_cons_some read⟩

theorem isOk_both {First Second Result : Type} (first : Except QueryError First)
    (second : Except QueryError Second) (join : First → Second → Result) :
    (first >>= fun one => second >>= fun two => pure (join one two)).isOk = true ↔
      first.isOk = true ∧ second.isOk = true := by
  cases first with
  | error error => exact ⟨fun accepted => (by cases accepted), fun both => (by cases both.1)⟩
  | ok one =>
      cases second with
      | error error =>
          exact ⟨fun accepted => (by cases accepted), fun both => (by cases both.2)⟩
      | ok two => exact ⟨fun _ => ⟨rfl, rfl⟩, fun _ => rfl⟩

/-! ### Rows in the order of the first record -/

def RowOf (names : List String) (record : Record) (row : List Value) : Prop :=
  List.Forall₂ (fun name value => record.lookup name = some value) names row

namespace Draft

variable {names : List String} {record : Record} {index : Nat}

theorem cellRow_eq_ok_iff {row : List Value} :
    cellRow names index record = .ok row ↔
      record.length = names.length ∧ RowOf names record row := by
  unfold RowOf cellRow
  rw [forall₂_read_iff, ← and_assoc]
  split
  · rename_i proper
    rw [and_iff_right proper, Except.ok.injEq]
  · rename_i improper
    exact ⟨fun accepted => (by cases accepted), fun both => absurd both.1 improper⟩

/-- As many columns as names, and each name among them: these are the same columns. -/
theorem cellRow_isOk_iff (index : Nat) (distinct : names.Nodup) (own : record.columns.Nodup) :
    (cellRow names index record).isOk = true ↔
      ∀ name, name ∈ record.columns ↔ name ∈ names := by
  have size : record.columns.length = record.length := List.length_map _
  have accepted : (cellRow names index record).isOk = true ↔
      record.length = names.length ∧ names ⊆ record.columns := by
    unfold cellRow
    simp only [← Record.mem_columns_iff]
    split
    · rename_i proper
      exact iff_of_true rfl proper
    · rename_i improper
      exact ⟨fun made => (by cases made), fun both => absurd both improper⟩
  rw [accepted]
  constructor
  · rintro ⟨even, inside⟩
    have same := (distinct.subperm inside).perm_of_length_le (by omega)
    exact fun name => same.symm.mem_iff
  · intro same
    have even := ((List.perm_ext_iff_of_nodup own distinct).mpr same).length_eq
    exact ⟨size.symm.trans even, fun name member => (same name).mpr member⟩

theorem cellRows_isOk_iff (distinct : names.Nodup) {records : List Record} :
    ∀ index : Nat, (∀ record ∈ records, record.columns.Nodup) →
      ((cellRows names index records).isOk = true ↔
        ∀ record ∈ records, ∀ name, name ∈ record.columns ↔ name ∈ names) := by
  induction records with
  | nil =>
      intro index _
      exact ⟨fun _ record member => (by cases member), fun _ => rfl⟩
  | cons record rest ih =>
      intro index proper
      obtain ⟨own, others⟩ := List.forall_mem_cons.mp proper
      rw [List.forall_mem_cons, ← cellRow_isOk_iff index distinct own,
        ← ih (index + 1) others]
      exact isOk_both _ _ _

theorem cellRows_rowOf {records : List Record} : ∀ {index : Nat} {rows : List (List Value)},
    cellRows names index records = .ok rows → List.Forall₂ (RowOf names) records rows := by
  induction records with
  | nil =>
      intro index rows done
      cases done
      exact .nil
  | cons record rest ih =>
      intro index rows done
      obtain ⟨row, own, further⟩ := exists_of_bind_ok done
      obtain ⟨others, found, same⟩ := exists_of_bind_ok further
      cases same
      exact .cons (cellRow_eq_ok_iff.mp own).2 (ih found)

end Draft

theorem length_flatten_even {Item : Type} {width : Nat} {rows : List (List Item)}
    (even : ∀ row ∈ rows, row.length = width) : rows.flatten.length = rows.length * width := by
  rw [List.length_flatten, List.map_congr_left even, List.map_const', List.sum_replicate_nat]

/-- A cell of rows laid end to end stands behind the whole rows before its own. -/
theorem getElem?_flatten_even {Item : Type} {width column : Nat} (inside : column < width)
    {rows : List (List Item)} : ∀ {row : Nat}, (∀ row ∈ rows, row.length = width) →
      rows.flatten[row * width + column]? = rows[row]?.bind (fun cells => cells[column]?) := by
  induction rows with
  | nil =>
      intro row _
      rfl
  | cons first rest ih =>
      intro row even
      obtain ⟨own, others⟩ := List.forall_mem_cons.mp even
      rw [List.flatten_cons]
      cases row with
      | zero =>
          rw [List.getElem?_append_left (by omega), Nat.zero_mul, Nat.zero_add]
          rfl
      | succ row =>
          have past : (row + 1) * width + column = first.length + (row * width + column) := by
            rw [Nat.succ_mul]
            omega
          rw [past, List.getElem?_append_right (Nat.le_add_right _ _), Nat.add_sub_cancel_left,
            List.getElem?_cons_succ]
          exact ih others

theorem cells_of_rows {names : List String} {records : List Record} {rows : List (List Value)}
    (filled : List.Forall₂ (RowOf names) records rows)
    (even : ∀ row ∈ rows, row.length = names.length) {row column : Nat} {record : Record}
    {name : String} (listed : records[row]? = some record) (named : names[column]? = some name) :
    ∃ value, record.lookup name = some value ∧
      rows.flatten[row * names.length + column]? = some value := by
  obtain ⟨count, each⟩ := List.forall₂_iff_get.mp filled
  obtain ⟨inRecords, rfl⟩ := List.getElem?_eq_some_iff.mp listed
  have inRows : row < rows.length := count ▸ inRecords
  obtain ⟨size, cells⟩ := List.forall₂_iff_get.mp (each row inRecords inRows)
  obtain ⟨inNames, rfl⟩ := List.getElem?_eq_some_iff.mp named
  have inCells : column < rows[row].length := size ▸ inNames
  refine ⟨rows[row][column], cells column inNames inCells, ?_⟩
  rw [getElem?_flatten_even inNames even, List.getElem?_eq_getElem inRows, Option.bind_some,
    List.getElem?_eq_getElem inCells]

def tupleText (profile : Profile) (width row : Nat) : String :=
  "(" ++ commaSeparated
    ((List.range width).map (fun column => profile.placeholder (row * width + column + 1))) ++ ")"

def insertionText (profile : Profile) (table : String) (columns : List String) (count : Nat) :
    String :=
  "INSERT INTO " ++ table ++ " (" ++ commaSeparated columns ++ ") VALUES " ++
    commaSeparated ((List.range count).map (tupleText profile columns.length))

namespace Piece

theorem writeFrom_separated {placeholder : Nat → String} {width : Nat} {spell : Nat → String}
    {entries : List (List Piece)} : ∀ number : Nat,
      (∀ entry ∈ entries, (values entry).length = width ∧
        ∀ number, writeFrom placeholder number entry = (spell number).toList) →
      writeFrom placeholder number (entries.intersperse [sql ", "]).flatten =
        (commaSeparated ((List.range entries.length).map
          (fun index => spell (number + index * width)))).toList := by
  induction entries with
  | nil => exact fun _ _ => rfl
  | cons entry rest ih =>
      intro number alike
      obtain ⟨⟨size, own⟩, others⟩ := List.forall_mem_cons.mp alike
      have shifted : (List.range (rest.length + 1)).map
            (fun index => spell (number + index * width)) =
          spell number :: (List.range rest.length).map
            (fun index => spell (number + width + index * width)) := by
        rw [List.range_succ_eq_map, List.map_cons, List.map_map, Nat.zero_mul, Nat.add_zero]
        refine congrArg _ (List.map_congr_left fun index _ => congrArg spell ?_)
        rw [Nat.succ_mul]
        omega
      have further := ih (number + width) others
      rw [List.length_cons, shifted]
      cases rest with
      | nil => simp [own, commaSeparated]
      | cons next more =>
          rw [separated_cons, writeFrom_append, own, size, writeFrom, further, List.length_cons,
            List.range_succ_eq_map, List.map_cons]
          unfold commaSeparated
          rw [String.intercalate_cons_cons, String.toList_append, String.toList_append,
            List.append_assoc]

theorem values_separated {entries : List (List Piece)} :
    values (entries.intersperse [sql ", "]).flatten = (entries.map values).flatten := by
  induction entries with
  | nil => rfl
  | cons entry rest ih =>
      cases rest with
      | nil => simp
      | cons next more =>
          rw [separated_cons, values_append, List.map_cons, List.flatten_cons, ← ih]
          rfl

theorem values_listed (row : List Value) : values (listed row) = row := by
  rw [listed_eq_separated, values_separated, List.map_map]
  induction row with
  | nil => rfl
  | cons value rest ih =>
      rw [List.map_cons, List.flatten_cons, ih]
      rfl

theorem writeFrom_listed (placeholder : Nat → String) (row : List Value) (number : Nat) :
    writeFrom placeholder number (listed row) =
      (commaSeparated ((List.range row.length).map
        (fun column => placeholder (number + column)))).toList := by
  have each : ∀ entry ∈ row.map (fun value => [slot value]), (values entry).length = 1 ∧
      ∀ number, writeFrom placeholder number entry = (placeholder number).toList := by
    intro entry member
    obtain ⟨value, _, rfl⟩ := List.mem_map.mp member
    exact ⟨rfl, fun number => List.append_nil _⟩
  have written := writeFrom_separated number each
  rw [List.length_map] at written
  simp only [Nat.mul_one] at written
  rw [listed_eq_separated]
  exact written

theorem statement_insertion (profile : Profile) (insertion : Insertion)
    (even : ∀ row ∈ insertion.rows, row.length = insertion.columns.length) :
    statement profile (Draft.insertionPieces insertion) =
      ⟨insertionText profile insertion.table insertion.columns insertion.rows.length,
        insertion.rows.flatten⟩ := by
  let tuple : List Value → List Piece := fun row => sql "(" :: listed row ++ [sql ")"]
  let spell : Nat → String := fun number => "(" ++ commaSeparated
    ((List.range insertion.columns.length).map
      (fun column => profile.placeholder (number + column))) ++ ")"
  have bound : ∀ row, values (tuple row) = row := by
    intro row
    change values (listed row ++ [sql ")"]) = row
    rw [values_append, values_listed]
    exact List.append_nil row
  have each : ∀ entry ∈ insertion.rows.map tuple,
      (values entry).length = insertion.columns.length ∧
        ∀ number, writeFrom profile.placeholder number entry = (spell number).toList := by
    intro entry member
    obtain ⟨row, own, rfl⟩ := List.mem_map.mp member
    refine ⟨by rw [bound, even row own], fun number => ?_⟩
    change "(".toList ++ writeFrom profile.placeholder number (listed row ++ [sql ")"]) = _
    rw [writeFrom_append, writeFrom_listed, even row own]
    simp [spell, writeFrom]
  have tuples : (List.range (insertion.rows.map tuple).length).map
        (fun index => spell (1 + index * insertion.columns.length)) =
      (List.range insertion.rows.length).map (tupleText profile insertion.columns.length) := by
    rw [List.length_map]
    refine List.map_congr_left fun row _ => ?_
    refine congrArg (fun texts => "(" ++ commaSeparated texts ++ ")")
      (List.map_congr_left fun column _ => congrArg profile.placeholder ?_)
    omega
  have written := writeFrom_separated 1 each
  rw [tuples] at written
  have text : String.ofList
      (writeFrom profile.placeholder 1 (Draft.insertionPieces insertion)) =
        insertionText profile insertion.table insertion.columns insertion.rows.length := by
    apply String.toList_inj.mp
    unfold insertionText Draft.insertionPieces
    rw [String.toList_ofList, writeFrom, written, ← String.toList_append]
  have cells : values (Draft.insertionPieces insertion) = insertion.rows.flatten := by
    change values ((insertion.rows.map tuple).intersperse [sql ", "]).flatten = _
    rw [values_separated, List.map_map, show values ∘ tuple = id from funext bound, List.map_id]
  rw [statement, text, cells]

end Piece

/-! ### Insertions by a builder -/

/-- What an insertion asks for: some records, of which the first has columns, all with valid names,
and the others have the same columns, in any order. -/
structure Insertable (records : List Record) (first : Record) : Prop where
  head : records.head? = some first
  wide : first ≠ []
  valid : ∀ name ∈ first.columns, (Identifier.readColumn name).isOk = true
  same : ∀ record ∈ records, ∀ name, name ∈ record.columns ↔ name ∈ first.columns

/-- The columns stand in the order of the first record, and each tuple has the cells of its record
in that order. -/
structure Places (profile : Profile) (table : String) (records : List Record) (first : Record)
    (statement : Statement) : Prop where
  text : ∃ columns, profile.columns first.columns = .ok columns ∧
    columns.length = first.columns.length ∧
    statement.sql = insertionText profile table columns records.length
  size : statement.bindings.length = records.length * first.columns.length
  bound : ∀ row column record name, records[row]? = some record →
    first.columns[column]? = some name →
      ∃ value, record.lookup name = some value ∧
        statement.bindings[row * first.columns.length + column]? = some value

theorem Profile.columns_isOk_iff (profile : Profile) {names : List String} :
    (profile.columns names).isOk = true ↔
      ∀ name ∈ names, (Identifier.readColumn name).isOk = true := by
  unfold columns
  induction names with
  | nil => exact ⟨fun _ name member => (by cases member), fun _ => rfl⟩
  | cons name rest ih =>
      have own : (profile.column name).isOk = (Identifier.readColumn name).isOk := by
        unfold column
        cases Identifier.readColumn name with
        | error error => rfl
        | ok identifier => rfl
      rw [List.forall_mem_cons, ← ih, ← own, List.mapM_cons]
      exact isOk_both _ _ _

theorem insertable_iff (profile : Profile) {records : List Record}
    (distinct : ∀ record ∈ records, record.columns.Nodup) (first : Record) :
    Insertable records first ↔ records.head? = some first ∧ first ≠ [] ∧
      ∃ columns rows, profile.columns first.columns = .ok columns ∧
        Draft.cellRows first.columns 0 records = .ok rows := by
  constructor
  · rintro ⟨head, wide, valid, same⟩
    have proper := distinct first (List.mem_of_head? head)
    obtain ⟨columns, quoted⟩ := ok_of_isOk (profile.columns_isOk_iff.mpr valid)
    obtain ⟨rows, made⟩ :=
      ok_of_isOk ((Draft.cellRows_isOk_iff proper 0 distinct).mpr same)
    exact ⟨head, wide, columns, rows, quoted, made⟩
  · rintro ⟨head, wide, columns, rows, quoted, made⟩
    have proper := distinct first (List.mem_of_head? head)
    exact ⟨head, wide, profile.columns_isOk_iff.mp (by rw [quoted]; rfl),
      (Draft.cellRows_isOk_iff proper 0 distinct).mp (by rw [made]; rfl)⟩

namespace Clauses

variable {clauses next : Clauses} {source : Source} {profile : Profile} {records : List Record}

def inserting (clauses : Clauses) (table : String) (columns : List String)
    (rows : List (List Value)) : Clauses :=
  { clauses with
    insert := some ⟨table, columns, rows.length, (clauses.bindings.append rows.flatten).1⟩
    bindings := (clauses.bindings.append rows.flatten).2 }

theorem insertMany_eq_ok_iff (sourced : clauses.source = some source) :
    clauses.insertMany profile records = .ok next ↔
      ∃ first columns rows, records.head? = some first ∧ first ≠ [] ∧
        profile.columns first.columns = .ok columns ∧
        Draft.cellRows first.columns 0 records = .ok rows ∧
        next = clauses.inserting source.rendered columns rows := by
  have target : clauses.target "insert" = .ok source.rendered := by
    unfold Clauses.target
    rw [sourced]
  unfold insertMany
  rw [target]
  constructor
  · intro accepted
    cases records with
    | nil => cases accepted
    | cons first rest =>
        change (if first.isEmpty then _ else _) = _ at accepted
        split at accepted
        · cases accepted
        · rename_i wide
          obtain ⟨columns, quoted, further⟩ := exists_of_bind_ok accepted
          obtain ⟨values, flat, same⟩ := exists_of_bind_ok further
          rw [Draft.rowsValues_eq] at flat
          obtain ⟨rows, made, rfl⟩ := exists_of_map_ok flat
          refine ⟨first, columns, rows, rfl, by simpa using wide, quoted, made, ?_⟩
          rw [inserting, (Draft.cellRows_even _ _ _ _ made).1]
          exact (Except.ok.inj same).symm
  · rintro ⟨first, columns, rows, head, wide, quoted, made, rfl⟩
    cases records with
    | nil => cases head
    | cons other rest =>
        cases head
        have filled : ¬first.isEmpty = true := by simpa using wide
        change (if first.isEmpty then _ else _) = _
        rw [if_neg filled, quoted, Draft.rowsValues_eq, made, inserting,
          (Draft.cellRows_even _ _ _ _ made).1]
        rfl

theorem inserting_pieces (clauses : Clauses) (table : String) {columns : List String}
    {rows : List (List Value)} (wide : 0 < columns.length)
    (even : ∀ row ∈ rows, row.length = columns.length) :
    ∃ insert, (clauses.inserting table columns rows).insert = some insert ∧
      insert.pieces (clauses.inserting table columns rows).bindings =
        .ok (Draft.insertionPieces ⟨table, columns, rows⟩) := by
  refine ⟨_, rfl, ?_⟩
  have total : rows.flatten.length = columns.length * rows.length := by
    rw [length_flatten_even even, Nat.mul_comm]
  have fits : ¬(columns.length = 0 ∨ rows.flatten.length ≠ columns.length * rows.length) := by
    omega
  unfold Insert.pieces
  simp only [inserting, BindingList.slice_append, Piece.slotList_eq]
  rw [if_neg (by simpa using fits), rowsOf_flatten _ _ even]
  rfl

end Clauses

/-- An insertion is accepted exactly where its records are insertable, and then its text lists the
columns of the first record and a tuple for each record, with the placeholders numbered through;
each cell of each record is bound at the number of its own place. It is sent unless a raw statement
stands before it. -/
theorem insertion_places_every_cell (builder : Builder) (source : Source)
    (sourced : builder.clauses.source = some source) (records : List Record)
    (distinct : ∀ record ∈ records, record.columns.Nodup) :
    ((builder.apply (.insert records)).isOk = true ↔ ∃ first, Insertable records first) ∧
    ∀ next, builder.apply (.insert records) = .ok next →
      ∃ first insert pieces, Insertable records first ∧ next.clauses.insert = some insert ∧
        insert.pieces next.clauses.bindings = .ok pieces ∧
        Places builder.profile source.rendered records first
          (Piece.statement builder.profile pieces) ∧
        (builder.clauses.raw = none →
          next.statement = .ok (Piece.statement builder.profile pieces)) := by
  have usable := insertable_iff builder.profile distinct
  constructor
  · constructor
    · intro accepted
      obtain ⟨next, done⟩ := ok_of_isOk accepted
      obtain ⟨clauses, made, _⟩ := Builder.with?_eq_ok done
      obtain ⟨first, columns, rows, head, wide, quoted, filled, _⟩ :=
        (Clauses.insertMany_eq_ok_iff sourced).mp made
      exact ⟨first, (usable first).mpr ⟨head, wide, columns, rows, quoted, filled⟩⟩
    · rintro ⟨first, insertable⟩
      obtain ⟨head, wide, columns, rows, quoted, filled⟩ := (usable first).mp insertable
      have accepted := (Clauses.insertMany_eq_ok_iff sourced).mpr
        ⟨first, columns, rows, head, wide, quoted, filled, rfl⟩
      change (builder.with? (builder.clauses.insertMany builder.profile records)).isOk = true
      rw [accepted]
      rfl
  · intro next done
    obtain ⟨clauses, made, rfl⟩ := Builder.with?_eq_ok done
    obtain ⟨first, columns, rows, head, wide, quoted, filled, rfl⟩ :=
      (Clauses.insertMany_eq_ok_iff sourced).mp made
    have count := (Draft.cellRows_even _ _ _ _ filled).1
    have even := (Draft.cellRows_even _ _ _ _ filled).2
    have width : columns.length = first.columns.length := length_of_mapM quoted
    have some : 0 < columns.length := by
      rw [width]
      exact List.length_pos_of_ne_nil (fun none => wide (List.map_eq_nil_iff.mp none))
    have rowsEven : ∀ row ∈ rows, row.length = columns.length :=
      fun row member => (even row member).trans width.symm
    obtain ⟨insert, pending, pieces⟩ :=
      builder.clauses.inserting_pieces source.rendered some rowsEven
    have statement := Piece.statement_insertion builder.profile
      ⟨source.rendered, columns, rows⟩ rowsEven
    refine ⟨first, insert, _, (usable first).mpr ⟨head, wide, columns, rows, quoted, filled⟩,
      pending, pieces, ?_, ?_⟩
    · rw [statement]
      refine ⟨⟨columns, quoted, width, by rw [count]⟩, ?_, ?_⟩
      · change rows.flatten.length = _
        rw [length_flatten_even even, count]
      · intro row column record name listed named
        exact cells_of_rows (Draft.cellRows_rowOf filled) even listed named
    · intro unset
      change (builder.clauses.inserting source.rendered columns rows).compile builder.profile = _
      have typed : (builder.clauses.inserting source.rendered columns rows).raw = none := unset
      unfold Clauses.compile Clauses.pieces
      rw [typed, pending]
      change (insert.pieces _ >>= fun pieces => pure (Piece.statement builder.profile pieces)) = _
      rw [pieces]
      rfl

def unevenPeople : List Record :=
  [Record.ofCells [("name", .string "Ada"), ("age", .int 36)],
    Record.ofCells [("age", .int 41), ("name", .string "Bob")]]

theorem uneven_people_are_placed :
    ∃ builder next statement,
      ({ profile := Dialect.postgresql.profile } : Builder).apply (.readFrom "users") =
        .ok builder ∧
      builder.apply (.insert unevenPeople) = .ok next ∧ next.statement = .ok statement ∧
      statement.sql =
        "INSERT INTO \"users\" (\"name\", \"age\") VALUES ($1, $2), ($3, $4)" ∧
      statement.bindings[3]? = some (.int 41) := by
  have opened : (({ profile := Dialect.postgresql.profile } : Builder).apply
      (.readFrom "users")).toOption.map (fun builder =>
        (builder.clauses.source.map Source.rendered, builder.clauses.raw.isNone)) =
          some (some "\"users\"", true) := by
    decide +kernel
  have quoted : (Dialect.postgresql.profile.columns ["name", "age"]).toOption =
      some ["\"name\"", "\"age\""] := by
    decide +kernel
  have distinct : ∀ record ∈ unevenPeople, record.columns.Nodup := by
    intro record member
    simp only [unevenPeople, List.mem_cons, List.not_mem_nil, or_false] at member
    rcases member with rfl | rfl
    · exact Record.nodup_columns_ofCells _
    · exact Record.nodup_columns_ofCells _
  have insertable : Insertable unevenPeople [("name", .string "Ada"), ("age", .int 36)] := by
    refine ⟨rfl, nofun, by decide +kernel, ?_⟩
    intro record member name
    simp only [unevenPeople, List.mem_cons, List.not_mem_nil, or_false] at member
    rcases member with rfl | rfl
    · exact Iff.rfl
    · change name ∈ ["age", "name"] ↔ name ∈ ["name", "age"]
      simp [or_comm]
  obtain ⟨builder, reached, shape⟩ := exists_of_toOption_map opened
  obtain ⟨shown, unset⟩ := Prod.mk.inj shape
  obtain ⟨source, sourced, rendered⟩ := Option.map_eq_some_iff.mp shown
  have placed := insertion_places_every_cell builder source sourced unevenPeople distinct
  obtain ⟨next, done⟩ := ok_of_isOk (placed.1.mpr ⟨_, insertable⟩)
  obtain ⟨first, insert, pieces, own, _, _, places, sent⟩ := placed.2 next done
  cases own.head
  obtain ⟨columns, listed, _, text⟩ := places.text
  have kind := (Builder.apply_kind reached).1
  rw [kind] at text listed
  change Dialect.postgresql.profile.columns ["name", "age"] = _ at listed
  rw [listed] at quoted
  cases quoted
  obtain ⟨value, found, bound⟩ := places.bound 1 1 _ "age" rfl rfl
  cases found
  refine ⟨builder, next, _, reached, done, sent (Option.isNone_iff_eq_none.mp unset), ?_, bound⟩
  rw [kind, text, rendered]
  decide +kernel

end BoundQuery
