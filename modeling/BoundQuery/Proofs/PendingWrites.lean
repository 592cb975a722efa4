import BoundQuery.Proofs.ClauseOrder
import BoundQuery.Proofs.WriteTarget

/-!
What later calls can do to a pending statement. A raw statement and an insertion stay as they are
asked for; an update takes up conditions, before and after, and nothing else. Only a call of the
same kind, or of one that goes before it, puts another statement in its place.
-/

set_option autoImplicit false

namespace BoundQuery

namespace Call

def isInsert : Call → Bool
  | insert _ => true
  | _ => false

def isUpdate : Call → Bool
  | update _ => true
  | _ => false

end Call

namespace Draft

variable {profile : Profile} {draft next : Draft} {calls : List Call}

theorem apply_insertion {call : Call} (other : call.isInsert = false)
    (applied : draft.apply profile call = .ok next) : next.insertion = draft.insertion := by
  by_cases idle : call.isWrite = false
  · exact (apply_sameWrites idle applied).insertion
  · cases call with
    | insert records => cases other
    | update changes =>
        obtain ⟨assignment, rfl, _⟩ := updateWith_ok applied
        rfl
    | delete =>
        obtain ⟨frame, _, rfl⟩ := exists_of_map_ok applied
        rfl
    | _ => exact absurd rfl idle

theorem apply_assignment {call : Call} (other : call.isUpdate = false)
    (applied : draft.apply profile call = .ok next) : next.assignment = draft.assignment := by
  by_cases idle : call.isWrite = false
  · exact (apply_sameWrites idle applied).assignment
  · cases call with
    | insert records =>
        obtain ⟨insertion, rfl, _⟩ := insertMany_ok applied
        rfl
    | update changes => cases other
    | delete =>
        obtain ⟨frame, _, rfl⟩ := exists_of_map_ok applied
        rfl
    | _ => exact absurd rfl idle

theorem applyAll_insertion (others : ∀ call ∈ calls, call.isInsert = false)
    (applied : draft.applyAll profile calls = .ok next) : next.insertion = draft.insertion :=
  applyAll_keeps Draft.insertion (fun call member _ _ => apply_insertion (others call member))
    applied

theorem applyAll_assignment (others : ∀ call ∈ calls, call.isUpdate = false)
    (applied : draft.applyAll profile calls = .ok next) : next.assignment = draft.assignment :=
  applyAll_keeps Draft.assignment (fun call member _ _ => apply_assignment (others call member))
    applied

theorem wheres_of_within (applied : Draft.applyAll profile {} calls = .ok next) :
    ∃ filter, Draft.applyAll profile {} (Call.within .wheres calls) = .ok filter ∧
      filter.wheres = next.wheres :=
  applyAll_within .wheres applied rfl

theorem statement_of_insertion (profile : Profile) {insertion : Insertion}
    (unset : draft.raw = none) (pending : draft.insertion = some insertion) :
    draft.statement profile = Piece.statement profile (insertionPieces insertion) := by
  unfold statement pieces
  rw [unset, pending]

theorem statement_of_assignment (profile : Profile) {assignment : Assignment}
    (unset : draft.raw = none) (idle : draft.insertion = none)
    (pending : draft.assignment = some assignment) :
    draft.statement profile = Piece.statement profile
      (assignmentPieces assignment ++ conditionPieces "WHERE" draft.wheres) := by
  unfold statement pieces
  rw [unset, idle, pending]

/-- The insertion has the source for its table, the columns of the first record, and the cells of
all records in the order of these. -/
structure Inserts (profile : Profile) (clauses : Clauses) (records : List Record)
    (insertion : Insertion) : Prop where
  table : clauses.target "insert" = .ok insertion.table
  columns : ∃ first ∈ records.head?, profile.columns first.columns = .ok insertion.columns ∧
    cellRows first.columns 0 records = .ok insertion.rows

/-- The assignment has the source for its table and a cell for each change. -/
structure Assigns (profile : Profile) (clauses : Clauses) (changes : Record)
    (assignment : Assignment) : Prop where
  table : clauses.target "update" = .ok assignment.table
  columns : profile.columns changes.columns = .ok (assignment.cells.map Prod.fst)
  values : assignment.cells.map Prod.snd = changes.map Prod.snd

theorem insertMany_inserts {records : List Record}
    (accepted : draft.insertMany profile records = .ok next) :
    ∃ insertion, next = { draft with insertion := some insertion } ∧
      Inserts profile draft.frame records insertion := by
  obtain ⟨table, named, further⟩ := exists_of_bind_ok accepted
  cases records with
  | nil => cases further
  | cons first rest =>
      dsimp only at further
      split at further
      · cases further
      · obtain ⟨columns, quoted, further⟩ := exists_of_bind_ok further
        obtain ⟨rows, cells, same⟩ := exists_of_bind_ok further
        cases same
        exact ⟨⟨table, columns, rows⟩, rfl, named, first, rfl, quoted, cells⟩

theorem updateWith_assigns {changes : Record}
    (accepted : draft.updateWith profile changes = .ok next) :
    ∃ assignment, next = { draft with assignment := some assignment } ∧
      Assigns profile draft.frame changes assignment := by
  obtain ⟨table, named, further⟩ := exists_of_bind_ok accepted
  split at further
  · cases further
  · obtain ⟨columns, quoted, same⟩ := exists_of_bind_ok further
    cases same
    have width : columns.length = (changes.map Prod.snd).length := by
      rw [length_of_mapM quoted, Record.columns, List.length_map, List.length_map]
    refine ⟨⟨table, columns.zip (changes.map Prod.snd)⟩, rfl, named, ?_, ?_⟩
    · rw [List.map_fst_zip (Nat.le_of_eq width)]
      exact quoted
    · exact List.map_snd_zip (Nat.le_of_eq width.symm)

theorem values_assignment (assignment : Assignment) :
    Piece.values (assignmentPieces assignment) = assignment.cells.map Prod.snd := by
  obtain ⟨table, cells⟩ := assignment
  unfold assignmentPieces
  induction cells with
  | nil => rfl
  | cons cell rest ih =>
      cases rest with
      | nil => rfl
      | cons other rest =>
          simp only [List.map_cons, Piece.separated_cons, List.cons_append] at ih ⊢
          exact congrArg (List.cons cell.2) ih

section Stays

variable {before written after : Draft} {later : List Call}

theorem raw_stays {sql : String} {values : List Value}
    (accepted : before.apply profile (.raw sql values) = .ok written)
    (continued : written.applyAll profile later = .ok after)
    (typed : ∀ other ∈ later, other.isRaw = false) :
    after.statement profile = ⟨sql, values⟩ := by
  have pending : after.raw = some ⟨sql, values⟩ := by
    rw [applyAll_raw typed continued]
    exact congrArg Draft.raw (Except.ok.inj accepted).symm
  unfold statement
  rw [pending]

theorem insertion_stays {records : List Record}
    (accepted : before.apply profile (.insert records) = .ok written)
    (continued : written.applyAll profile later = .ok after) (unset : before.raw = none)
    (others : ∀ other ∈ later, other.isRaw = false ∧ other.isInsert = false) :
    ∃ insertion, Inserts profile before.frame records insertion ∧
      written.statement profile = Piece.statement profile (insertionPieces insertion) ∧
      after.statement profile = written.statement profile := by
  obtain ⟨insertion, rfl, inserts⟩ := insertMany_inserts accepted
  have now : Draft.statement profile { before with insertion := some insertion } = _ :=
    statement_of_insertion profile unset rfl
  have typed := applyAll_raw (fun other member => (others other member).1) continued
  have kept := applyAll_insertion (fun other member => (others other member).2) continued
  have afterwards := statement_of_insertion profile (typed.trans unset) kept
  exact ⟨insertion, inserts, now, afterwards.trans now.symm⟩

theorem assignment_stays {changes : Record} {earlier : List Call}
    (reached : Draft.applyAll profile {} earlier = .ok before)
    (accepted : before.apply profile (.update changes) = .ok written)
    (continued : written.applyAll profile later = .ok after) (unset : before.raw = none)
    (idle : before.insertion = none)
    (others : ∀ other ∈ later,
      other.isRaw = false ∧ other.isInsert = false ∧ other.isUpdate = false) :
    ∃ assignment filter, Assigns profile before.frame changes assignment ∧
      Draft.applyAll profile {} (Call.within .wheres (earlier ++ later)) = .ok filter ∧
      after.statement profile = Piece.statement profile
        (assignmentPieces assignment ++ conditionPieces "WHERE" filter.wheres) := by
  have joined : Draft.applyAll profile {} (earlier ++ .update changes :: later) = .ok after := by
    rw [applyAll_append, reached]
    change before.applyAll profile (.update changes :: later) = _
    rw [applyAll, accepted]
    exact continued
  obtain ⟨filter, run, conditions⟩ := wheres_of_within joined
  have apart : Call.within .wheres (earlier ++ .update changes :: later) =
      Call.within .wheres (earlier ++ later) := by
    unfold Call.within
    rw [List.filter_append, List.filter_append]
    exact congrArg _ (Call.within_other later (fun same => by cases same))
  rw [apart] at run
  obtain ⟨assignment, rfl, assigns⟩ := updateWith_assigns accepted
  have typed := applyAll_raw (fun other member => (others other member).1) continued
  have absent := applyAll_insertion (fun other member => (others other member).2.1) continued
  have pending := applyAll_assignment (fun other member => (others other member).2.2) continued
  have now := statement_of_assignment profile (typed.trans unset) (absent.trans idle) pending
  rw [← conditions] at now
  exact ⟨assignment, filter, assigns, run, now⟩

end Stays

end Draft

/-- Whatever is called behind a raw statement, but another one, it is sent as it is. An insertion is
sent unless there is a raw statement, whatever is called but another insertion. An update is sent
unless there are these two: its own values first, and behind them the conditions, which are those
of all the calls before and after that give any. -/
theorem pending_writes_are_stable (profile : Profile) (cacheable : Bool)
    (earlier later : List Call) (call : Call) (before written after : Builder)
    (reached : ({ profile := profile, cacheable := cacheable } : Builder).applyAll earlier =
      .ok before)
    (accepted : before.apply call = .ok written) (continued : written.applyAll later = .ok after) :
    (∀ sql values, call = .raw sql values → (∀ other ∈ later, other.isRaw = false) →
      after.statement = .ok ⟨sql, values⟩) ∧
    (∀ records, call = .insert records → before.clauses.raw = none →
      (∀ other ∈ later, other.isRaw = false ∧ other.isInsert = false) →
        ∃ insertion, Draft.Inserts profile before.clauses records insertion ∧
          written.statement =
            .ok (Piece.statement profile (Draft.insertionPieces insertion)) ∧
          after.statement = written.statement) ∧
    ∀ changes, call = .update changes → before.clauses.raw = none →
      before.clauses.insert = none →
      (∀ other ∈ later, other.isRaw = false ∧ other.isInsert = false ∧ other.isUpdate = false) →
        ∃ (assignment : Assignment) (filter : Draft) (statement : Statement),
          Draft.Assigns profile before.clauses changes assignment ∧
          Draft.applyAll profile {} (Call.within .wheres (earlier ++ later)) = .ok filter ∧
          after.statement = .ok statement ∧
          statement = Piece.statement profile (Draft.assignmentPieces assignment ++
            Draft.conditionPieces "WHERE" filter.wheres) ∧
          statement.bindings = changes.map Prod.snd ++
            Piece.values (Draft.conditionPieces "WHERE" filter.wheres) := by
  obtain ⟨own, aligned, meant⟩ := Builder.reached_draft reached
  obtain ⟨kept, still, step⟩ := Builder.apply_draft aligned accepted
  obtain ⟨last, whole, rest⟩ := Builder.applyAll_draft still continued
  rw [own] at kept step
  rw [kept] at last rest
  have sent : ∀ builder : Builder, builder.profile = profile → builder.clauses.Aligned →
      builder.statement = .ok (builder.clauses.draft.statement profile) := by
    intro builder same sound
    unfold Builder.statement
    rw [Clauses.compile_eq sound, same]
  rw [sent after last whole, sent written kept still]
  refine ⟨?_, ?_, ?_⟩
  · rintro sql values rfl typed
    rw [Draft.raw_stays step rest typed]
  · rintro records rfl unset others
    obtain ⟨insertion, inserts, now, same⟩ :=
      Draft.insertion_stays step rest (Clauses.draft_raw unset) others
    rw [same, now]
    exact ⟨insertion, ⟨inserts.table, inserts.columns⟩, rfl, rfl⟩
  · rintro changes rfl unset idle others
    obtain ⟨assignment, filter, assigns, run, now⟩ := Draft.assignment_stays meant step rest
      (Clauses.draft_raw unset) (Option.map_eq_none_iff.mpr idle) others
    rw [now]
    refine ⟨assignment, filter, _, ⟨assigns.table, assigns.columns, assigns.values⟩, run, rfl, rfl,
      ?_⟩
    change Piece.values _ = _
    rw [Piece.values_append, Draft.values_assignment, assigns.values]

def seventhUser : List Call :=
  [.readFrom "users", .compare .and "id" "=" (.int 7)]

theorem pending_writes_outlast_later_calls :
    ∃ before : Builder,
      ({ profile := Dialect.sqlite.profile } : Builder).applyAll seventhUser = .ok before ∧
      (∃ written after, before.apply (.raw "VACUUM" []) = .ok written ∧
        written.applyAll [.insert [[("name", .string "Bob")]], .readFrom "posts"] = .ok after ∧
        after.statement = .ok ⟨"VACUUM", []⟩) ∧
      (∃ written after, before.apply (.insert [[("name", .string "Bob")]]) = .ok written ∧
        written.applyAll [.readFrom "posts", .update [("name", .string "Ada")], .delete] =
          .ok after ∧
        after.statement = written.statement) ∧
      ∃ written after statement, before.apply (.update [("name", .string "Ada")]) = .ok written ∧
        written.applyAll [.readFrom "posts", .delete, .compare .or "id" "=" (.int 8)] = .ok after ∧
        after.statement = .ok statement ∧
        statement.bindings = [.string "Ada", .int 7, .int 8] := by
  let start : Builder := { profile := Dialect.sqlite.profile }
  have clear : (start.applyAll seventhUser).toOption.map
      (fun before => (before.clauses.raw.isNone, before.clauses.insert.isNone)) =
        some (true, true) := by
    decide +kernel
  have continues : ∀ call later, (start.applyAll seventhUser >>= fun before =>
        before.apply call >>= fun written => written.applyAll later).isOk = true →
      ∀ before, start.applyAll seventhUser = .ok before →
        ∃ written after, before.apply call = .ok written ∧ written.applyAll later = .ok after := by
    intro call later fine before reached
    rw [reached] at fine
    change (before.apply call >>= fun written => written.applyAll later).isOk = true at fine
    obtain ⟨after, whole⟩ := ok_of_isOk fine
    obtain ⟨written, accepted, continued⟩ := exists_of_bind_ok whole
    exact ⟨written, after, accepted, continued⟩
  obtain ⟨before, reached, shape⟩ := exists_of_toOption_map clear
  obtain ⟨unset, idle⟩ := Prod.mk.inj shape
  refine ⟨before, reached, ?_, ?_, ?_⟩
  · obtain ⟨written, after, accepted, continued⟩ :=
      continues (.raw "VACUUM" []) [.insert [[("name", .string "Bob")]], .readFrom "posts"]
        (by decide +kernel) before reached
    exact ⟨written, after, accepted, continued,
      (pending_writes_are_stable _ _ _ _ _ _ _ _ reached accepted continued).1 _ _ rfl
        (by decide)⟩
  · obtain ⟨written, after, accepted, continued⟩ :=
      continues (.insert [[("name", .string "Bob")]])
        [.readFrom "posts", .update [("name", .string "Ada")], .delete]
        (by decide +kernel) before reached
    obtain ⟨_, _, _, same⟩ :=
      (pending_writes_are_stable _ _ _ _ _ _ _ _ reached accepted continued).2.1 _ rfl
        (Option.isNone_iff_eq_none.mp unset) (by decide)
    exact ⟨written, after, accepted, continued, same⟩
  · obtain ⟨written, after, accepted, continued⟩ :=
      continues (.update [("name", .string "Ada")])
        [.readFrom "posts", .delete, .compare .or "id" "=" (.int 8)]
        (by decide +kernel) before reached
    obtain ⟨_, filter, statement, _, run, sent, _, bound⟩ :=
      (pending_writes_are_stable _ _ _ _ _ _ _ _ reached accepted continued).2.2 _ rfl
        (Option.isNone_iff_eq_none.mp unset) (Option.isNone_iff_eq_none.mp idle) (by decide)
    have filtered : (Draft.applyAll Dialect.sqlite.profile {} [.compare .and "id" "=" (.int 7),
        .compare .or "id" "=" (.int 8)]).map (fun filter =>
          Piece.values (Draft.conditionPieces "WHERE" filter.wheres)) =
        .ok [.int 7, .int 8] := rfl
    change Draft.applyAll Dialect.sqlite.profile {} [.compare .and "id" "=" (.int 7),
      .compare .or "id" "=" (.int 8)] = .ok filter at run
    rw [run] at filtered
    exact ⟨written, after, statement, accepted, continued, sent,
      bound.trans (congrArg _ (Except.ok.inj filtered))⟩

end BoundQuery
