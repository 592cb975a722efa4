import BoundQuery.Proofs.CursorScope
import BoundQuery.Proofs.Sending
import Mathlib.Data.List.Nodup

/-!
Reading by cursor from the first page to the last. What a page has to say about the rows behind it
is where the next one starts, and page after page they come to all the rows that match.
-/

set_option autoImplicit false

namespace BoundQuery

namespace Condition

/-- The value of a chain behind a conjunction that is known so far; `AND` binds tighter than `OR`.
Every condition is a unit that holds or does not. -/
def holdsFrom (truth : List Piece → Bool) : Bool → List Condition → Bool
  | soFar, [] => soFar
  | soFar, ⟨.and, pieces⟩ :: rest => holdsFrom truth (soFar && truth pieces) rest
  | soFar, ⟨.or, pieces⟩ :: rest => soFar || holdsFrom truth (truth pieces) rest

/-- The value of all the conditions; without any, every row will do. -/
def holds (truth : List Piece → Bool) : List Condition → Bool
  | [] => true
  | first :: rest => holdsFrom truth (truth first.pieces) rest

variable (truth : List Piece → Bool)

theorem holdsFrom_concat (last : List Piece) (rest : List Condition) :
    ∀ soFar : Bool, (∀ condition ∈ rest, condition.combinator = .and) →
      holdsFrom truth soFar (rest ++ [⟨.and, last⟩]) =
        (holdsFrom truth soFar rest && truth last) := by
  induction rest with
  | nil => exact fun soFar _ => rfl
  | cons condition rest ih =>
      intro soFar conjoined
      obtain ⟨combinator, pieces⟩ := condition
      obtain ⟨own, others⟩ := List.forall_mem_cons.mp conjoined
      cases own
      exact ih (soFar && truth pieces) others

end Condition

namespace Draft

variable {draft : Draft} {truth : List Piece → Bool}

theorem holds_behindCursor (column : String) (value : Value)
    (grouped : draft.wheres ≠ [] → truth (Piece.enclosed (Piece.chain draft.wheres)) =
      Condition.holds truth draft.wheres) :
    Condition.holds truth (draft.behindCursor column (some value)).wheres =
      (Condition.holds truth draft.wheres &&
        truth [.sql (column ++ " > "), .slot value]) := by
  let last : Condition := ⟨.and, [.sql (column ++ " > "), .slot value]⟩
  change Condition.holds truth (draft.foldWheres.wheres ++ [last]) = _
  cases divided : draft.Divided with
  | true =>
      have some : draft.wheres ≠ [] := by
        intro none
        unfold Divided at divided
        rw [none] at divided
        cases divided
      rw [foldWheres_divided divided, ← grouped some]
      rfl
  | false =>
      rw [foldWheres_undivided divided]
      cases conditions : draft.wheres with
      | nil => exact (Bool.true_and _).symm
      | cons first rest =>
          exact Condition.holdsFrom_concat truth last.pieces rest (truth first.pieces)
            (and_of_undivided conditions divided)

/-- The statement of a page: its text has the conditions of the draft behind `WHERE` and ends with
the order of the column and the limit, and each value is bound at the number of its slot. -/
structure IsPage (profile : Profile) (draft : Draft) (column : String) (limit : Nat)
    (statement : Statement) : Prop where
  reads : draft.isWrite = false → draft.Reads profile (draft.whereText profile) statement.sql
  ordered : draft.frame.orderText = " ORDER BY " ++ column ++ " ASC"
  limited : profile.limitOffset (some limit) none true ≠ "" →
    draft.frame.pagingText profile = " " ++ profile.limitOffset (some limit) none true
  numbered : Piece.Numbered profile (draft.pieces profile) statement

end Draft

theorem Builder.isPage_cursorClauses (builder : Builder) (column : String) (cursor : Option Value)
    (size : Nat) :
    let draft := (builder.cursorClauses column cursor size).draft
    draft.IsPage builder.profile column (size + 1)
      (Piece.statement builder.profile (draft.pieces builder.profile)) where
  reads := Draft.reads_statement
  ordered := by
    change " ORDER BY " ++ (column ++ " " ++ "ASC") = _
    simp [String.append_assoc]
  limited := by
    intro some
    change (if (builder.profile.limitOffset (.some (size + 1)) none true).isEmpty then ""
      else _) = _
    rw [if_neg (by simpa using some)]
    rfl
  numbered := Piece.statement_numbered _ _

/-! ### Rows in the order of a column -/

/-- Rows of which it is known where they stand in a column and which conditions hold in them.
Parentheses do not change the value of the conditions. Those rows in which the conditions hold show
their place in the column, and no two of them share it. -/
structure Listing (wheres : List Condition) (rendered key : String) where
  rows : List Row
  truth : Row → List Piece → Bool
  position : Row → Int
  grouped : wheres ≠ [] → ∀ row ∈ rows,
    truth row (Piece.enclosed (Piece.chain wheres)) = Condition.holds (truth row) wheres
  compared : ∀ row ∈ rows, Condition.holds (truth row) wheres = true → ∀ value : Int,
    truth row [.sql (rendered ++ " > "), .slot (.int value)] = decide (value < position row)
  shown : ∀ row ∈ rows, Condition.holds (truth row) wheres = true →
    row.lookup key = some (.number (.int (position row))) ∧ fitsSigned (position row) = true
  distinct : ((rows.filter fun row => Condition.holds (truth row) wheres).map position).Nodup

namespace Listing

variable {wheres : List Condition} {rendered key : String}
variable (listing : Listing wheres rendered key)

def satisfying (conditions : List Condition) : List Row :=
  listing.rows.filter fun row => Condition.holds (listing.truth row) conditions

def Ascending (found ordered : List Row) : Prop :=
  ordered.Perm found ∧
    ordered.Pairwise fun first second => listing.position first ≤ listing.position second

/-- A statement whose text asks for so many rows in the order of the column is answered by the first
rows that satisfy the conditions in it. -/
def AnsweredBy {World : Type} (executor : Executor World) (profile : Profile) (draft : Draft)
    (limit : Nat) : Prop :=
  ∀ statement, draft.IsPage profile rendered limit statement → ∀ world, ∃ output ordered,
    (executor.query statement.sql statement.bindings world).1 = .ok output ∧
    listing.Ascending (listing.satisfying draft.wheres) ordered ∧
    output.rows = ordered.take limit

variable {listing} {found ordered other front rest : List Row} {row : Row}

theorem mem_satisfying (member : row ∈ listing.satisfying wheres) :
    row ∈ listing.rows ∧ Condition.holds (listing.truth row) wheres = true :=
  List.mem_filter.mp member

theorem row_of_position {first second : Row} (left : first ∈ listing.satisfying wheres)
    (right : second ∈ listing.satisfying wheres)
    (same : listing.position first = listing.position second) : first = second :=
  List.inj_on_of_nodup_map listing.distinct left right same

namespace Ascending

theorem unique (within : ∀ row ∈ found, row ∈ listing.satisfying wheres)
    (left : listing.Ascending found ordered) (right : listing.Ascending found other) :
    ordered = other := by
  refine List.Perm.eq_of_pairwise ?_ left.2 right.2 (left.1.trans right.1.symm)
  intro first second inLeft inRight least most
  exact row_of_position (within first (left.1.mem_iff.mp inLeft))
    (within second (right.1.mem_iff.mp inRight)) (Int.le_antisymm least most)

theorem strict (ascending : listing.Ascending (listing.satisfying wheres) ordered) :
    ordered.Pairwise fun first second => listing.position first < listing.position second := by
  have apart : (ordered.map listing.position).Nodup :=
    (ascending.1.map listing.position).nodup_iff.mpr listing.distinct
  refine (ascending.2.and (List.pairwise_map.mp apart)).imp ?_
  rintro first second ⟨least, different⟩
  omega

theorem behind (ascending : listing.Ascending (listing.satisfying wheres) (front ++ row :: rest)) :
    listing.Ascending ((listing.satisfying wheres).filter
      fun other => decide (listing.position row < listing.position other)) rest := by
  obtain ⟨_, own, apart⟩ := List.pairwise_append.mp ascending.strict
  obtain ⟨after, _⟩ := List.pairwise_cons.mp own
  have before : front.filter (fun other =>
      decide (listing.position row < listing.position other)) = [] := by
    rw [List.filter_eq_nil_iff]
    intro other member
    have less := apart other member row List.mem_cons_self
    rw [decide_eq_true_iff]
    omega
  have later : rest.filter (fun other =>
      decide (listing.position row < listing.position other)) = rest := by
    rw [List.filter_eq_self]
    intro other member
    exact decide_eq_true (after other member)
  have cut := ascending.1.filter fun other =>
    decide (listing.position row < listing.position other)
  rw [List.filter_append, before, List.filter_cons_of_neg (by simp), later] at cut
  refine ⟨cut, ?_⟩
  exact (ascending.2.sublist (List.sublist_append_right front _)).sublist
    (List.sublist_cons_self row rest)

end Ascending

theorem satisfying_behindCursor {draft : Draft} (own : draft.wheres = wheres) (value : Int) :
    listing.satisfying (draft.behindCursor rendered (some (.int value))).wheres =
      (listing.satisfying wheres).filter
        fun row => decide (value < listing.position row) := by
  subst own
  unfold satisfying
  rw [List.filter_filter]
  refine List.filter_congr fun row member => ?_
  rw [Draft.holds_behindCursor rendered (.int value) fun some => listing.grouped some row member,
    Bool.and_comm]
  cases matched : Condition.holds (listing.truth row) draft.wheres with
  | false => rw [Bool.and_false, Bool.and_false]
  | true => rw [listing.compared row member matched]

end Listing

namespace Decryptor

variable (decrypt : Decryptor) {key : String}

theorem lookup_decryptField (row : Row) (field : String) :
    (decrypt.decryptField row field).lookup key =
      (row.lookup key).map fun value =>
        if key == field then decrypt.decryptValue value else value := by
  unfold decryptField
  induction row with
  | nil => rfl
  | cons member rest ih =>
      obtain ⟨name, value⟩ := member
      by_cases marked : (name == field) = true
      · rw [List.map_cons, if_pos marked, List.lookup_cons, List.lookup_cons, ih]
        cases found : key == name with
        | false => rfl
        | true => rw [← beq_iff_eq.mp found] at marked; rw [Option.map_some, if_pos marked]
      · rw [List.map_cons, if_neg marked, List.lookup_cons, List.lookup_cons, ih]
        cases found : key == name with
        | false => rfl
        | true => rw [← beq_iff_eq.mp found] at marked; rw [Option.map_some, if_neg marked]

theorem lookup_decryptRow_number {number : Number} (fields : List String) :
    ∀ row : Row, row.lookup key = some (.number number) →
      (decrypt.decryptRow fields row).lookup key = some (.number number) := by
  unfold decryptRow
  induction fields with
  | nil => exact fun row stored => stored
  | cons field fields ih =>
      intro row stored
      apply ih
      rw [lookup_decryptField, stored, Option.map_some]
      split
      · rfl
      · rfl

end Decryptor

theorem Engine.lookup_shown_number {World : Type} (engine : Engine (Logged World))
    (builder : Builder) {row : Row} {key : String} {number : Number}
    (stored : row.lookup key = some (.number number)) :
    (engine.shown builder row).lookup key = some (.number number) := by
  unfold shown
  cases engine.decryptor with
  | none => exact stored
  | some decryptor => exact decryptor.lookup_decryptRow_number builder.encrypted row stored

/-- Pages that bring some rows. Each of them says where to go on exactly if there is more, and each
but the last is full. -/
structure Covers (limit : Nat) (rows : List Row) (pages : List CursorPage) : Prop where
  whole : pages.flatMap CursorPage.data = rows
  full : ∀ page ∈ pages.dropLast, page.data.length = limit ∧ page.hasMore = true
  last : ∃ page, pages.getLast? = some page ∧ page.hasMore = false
  linked : ∀ page ∈ pages, page.nextCursor.isSome = page.hasMore
  count : pages.length = max 1 ((rows.length + limit - 1) / limit)

namespace Covers

variable {limit : Nat} {rows : List Row} {pages : List CursorPage}

theorem single (positive : 1 ≤ limit) (fits : rows.length ≤ limit) :
    Covers limit rows [⟨rows, false, none⟩] where
  whole := by simp
  full := by simp
  last := ⟨_, rfl, rfl⟩
  linked := by simp
  count := by
    have one : (rows.length + limit - 1) / limit ≤ 1 := by
      rw [Nat.div_le_iff_le_mul_add_pred positive]
      omega
    rw [List.length_singleton]
    omega

theorem cons (positive : 1 ≤ limit) (further : limit < rows.length) (value : Value)
    (rest : Covers limit (rows.drop limit) pages) :
    Covers limit rows (⟨rows.take limit, true, some value⟩ :: pages) where
  whole := by rw [List.flatMap_cons, rest.whole, List.take_append_drop]
  full := by
    obtain ⟨final, found, _⟩ := rest.last
    have some : pages ≠ [] := fun none => by
      rw [none] at found
      cases found
    rw [List.dropLast_cons_of_ne_nil some]
    refine List.forall_mem_cons.mpr ⟨⟨?_, rfl⟩, rest.full⟩
    rw [List.length_take]
    omega
  last := by
    obtain ⟨final, found, ended⟩ := rest.last
    exact ⟨final, by rw [List.getLast?_cons, found]; rfl, ended⟩
  linked := List.forall_mem_cons.mpr ⟨rfl, rest.linked⟩
  count := by
    have behind : rows.length + limit - 1 = (rows.length - limit + limit - 1) + limit := by omega
    have some : 0 < (rows.length - limit + limit - 1) / limit :=
      Nat.div_pos (by omega) positive
    rw [List.length_cons, rest.count, List.length_drop, behind, Nat.add_div_right _ positive]
    omega

end Covers

/-! ### The walk -/

/-- One page after another, each from where the page before says, until a page has no more behind
it. -/
inductive CursorWalk {World : Type} (engine : Engine World) (builder : Builder) (column : String)
    (limit : Int) :
    Option Value → Session World → List CursorPage → Session World → Prop where
  | last {cursor : Option Value} {session after : Session World} {page : CursorPage}
      (read : (engine.cursorPaginate builder column cursor limit).run session = (.ok page, after))
      (ended : page.hasMore = false) :
      CursorWalk engine builder column limit cursor session [page] after
  | onward {cursor : Option Value} {session middle after : Session World} {page : CursorPage}
      {pages : List CursorPage}
      (read : (engine.cursorPaginate builder column cursor limit).run session = (.ok page, middle))
      (more : page.hasMore = true)
      (rest : CursorWalk engine builder column limit page.nextCursor middle pages after) :
      CursorWalk engine builder column limit cursor session (page :: pages) after

theorem CursorWalk.unique {World : Type} {engine : Engine World} {builder : Builder}
    {column : String} {limit : Int} {cursor : Option Value} {session after last : Session World}
    {pages others : List CursorPage}
    (walk : CursorWalk engine builder column limit cursor session pages after)
    (other : CursorWalk engine builder column limit cursor session others last) :
    pages = others ∧ after = last := by
  induction walk generalizing others with
  | last read ended =>
      cases other with
      | last again _ =>
          cases read.symm.trans again
          exact ⟨rfl, rfl⟩
      | onward again more _ =>
          cases read.symm.trans again
          rw [ended] at more
          cases more
  | onward read more _ ih =>
      cases other with
      | last again ended =>
          cases read.symm.trans again
          rw [ended] at more
          cases more
      | onward again _ rest =>
          cases read.symm.trans again
          obtain ⟨rfl, rfl⟩ := ih rest
          exact ⟨rfl, rfl⟩

namespace Listing

def placeOfLast {wheres : List Condition} {rendered key : String}
    (listing : Listing wheres rendered key) (rows : List Row) : Option Int :=
  rows.getLast?.map listing.position

variable {World : Type} {engine : Engine (Logged World)} {builder : Builder}
variable {executor : Executor World} {column rendered : String} {limit : Int} {size : Nat}
variable {listing : Listing builder.clauses.draft.wheres rendered (resultKey column)}
variable {front rest : List Row}

theorem satisfying_cursorClauses (aligned : builder.clauses.Aligned) (cursor : Option Int)
    (size : Nat) :
    listing.satisfying (builder.cursorClauses rendered (cursor.map .int) size).draft.wheres =
      (listing.satisfying builder.clauses.draft.wheres).filter fun row =>
        cursor.all fun place => decide (place < listing.position row) := by
  have narrowed (after : Option Value) :
      (builder.cursorClauses rendered after size).draft.wheres =
        (builder.clauses.draft.behindCursor rendered after).wheres := by
    rw [Builder.draft_cursorClauses aligned]
    rfl
  rw [narrowed]
  cases cursor with
  | none => exact (List.filter_true _).symm
  | some place => exact satisfying_behindCursor rfl place

theorem ascending_rest (aligned : builder.clauses.Aligned)
    (ascending : listing.Ascending (listing.satisfying builder.clauses.draft.wheres)
      (front ++ rest)) (size : Nat) :
    listing.Ascending (listing.satisfying (builder.cursorClauses rendered
      ((listing.placeOfLast front).map .int) size).draft.wheres) rest := by
  rw [satisfying_cursorClauses aligned]
  rcases List.eq_nil_or_concat front with rfl | ⟨before, row, rfl⟩
  · rw [List.nil_append] at ascending
    exact (List.filter_true _).symm ▸ ascending
  · have place : listing.placeOfLast (before.concat row) = some (listing.position row) := by
      unfold placeOfLast
      rw [List.concat_eq_append, List.getLast?_concat]
      rfl
    rw [List.concat_eq_append, List.append_assoc, List.singleton_append] at ascending
    rw [place]
    exact ascending.behind

theorem received_rest (aligned : builder.clauses.Aligned)
    (answers : ∀ cursor : Option Int, listing.AnsweredBy executor builder.profile
      (builder.cursorClauses rendered (cursor.map .int) size).draft (size + 1))
    (ascending : listing.Ascending (listing.satisfying builder.clauses.draft.wheres)
      (front ++ rest)) (session : Session (Logged World)) :
    engine.received builder (session.exchange executor (Piece.statement builder.profile
        ((builder.cursorClauses rendered ((listing.placeOfLast front).map .int) size).draft.pieces
          builder.profile))) =
      .ok ((rest.take (size + 1)).map (engine.shown builder)) := by
  have behind := ascending_rest aligned ascending size
  have within : ∀ row ∈ listing.satisfying (builder.cursorClauses rendered
      ((listing.placeOfLast front).map .int) size).draft.wheres,
        row ∈ listing.satisfying builder.clauses.draft.wheres :=
    fun row member =>
      ascending.1.mem_iff.mp (List.mem_append_right front (behind.1.mem_iff.mpr member))
  obtain ⟨output, ordered, answered, found, given⟩ := answers (listing.placeOfLast front) _
    (builder.isPage_cursorClauses rendered ((listing.placeOfLast front).map .int) size)
    session.world.world
  unfold Engine.received Session.exchange
  rw [answered, ← found.unique within behind, ← given]
  rfl

variable (engine builder column) in
theorem cursorPage_last (fits : rest.length ≤ size) :
    Engine.cursorPage column size
        { rows := (rest.take (size + 1)).map (engine.shown builder) } =
      ⟨rest.map (engine.shown builder), false, none⟩ := by
  have all : rest.take (size + 1) = rest := List.take_of_length_le (by omega)
  have none : ¬size < (rest.map (engine.shown builder)).length := by
    rw [List.length_map]
    omega
  unfold Engine.cursorPage
  dsimp only
  rw [all, decide_eq_false none, if_neg none,
    List.take_of_length_le (by rw [List.length_map]; exact fits)]

variable (engine) in
theorem cursorPage_onward (positive : 1 ≤ size) (further : size < rest.length)
    (within : ∀ row ∈ rest, row ∈ listing.satisfying builder.clauses.draft.wheres) :
    ∃ place, listing.placeOfLast (rest.take size) = some place ∧
      Engine.cursorPage column size
          { rows := (rest.take (size + 1)).map (engine.shown builder) } =
        ⟨(rest.map (engine.shown builder)).take size, true, some (.int place)⟩ := by
  have some : rest.take size ≠ [] := by
    rw [← List.length_pos_iff, List.length_take]
    omega
  have kept : ((rest.take (size + 1)).map (engine.shown builder)).take size =
      (rest.take size).map (engine.shown builder) := by
    rw [← List.map_take, List.take_take, Nat.min_eq_left (Nat.le_succ size)]
  have more : size < ((rest.take (size + 1)).map (engine.shown builder)).length := by
    rw [List.length_map, List.length_take]
    omega
  obtain ⟨last, found⟩ := Option.isSome_iff_exists.mp (List.getLast?_isSome.mpr some)
  obtain ⟨stored, holds⟩ := mem_satisfying
    (within last (List.mem_of_mem_take (List.mem_of_getLast? found)))
  obtain ⟨shown, word⟩ := listing.shown last stored holds
  have next : (((rest.take size).map (engine.shown builder)).getLast?.bind fun row =>
      row.lookup (resultKey column)) = Option.some (.number (.int (listing.position last))) := by
    rw [List.getLast?_map, found]
    exact engine.lookup_shown_number builder shown
  refine ⟨listing.position last, by rw [placeOfLast, found]; rfl, ?_⟩
  unfold Engine.cursorPage
  dsimp only
  rw [kept, decide_eq_true more, if_pos more, next, List.map_take, Option.map_some, Value.ofJson,
    if_pos word]

section Run

variable (records : engine.executor = executor.logged) (uncached : engine.Uncached builder)
variable (aligned : builder.clauses.Aligned) (unset : builder.clauses.raw = none)
variable (accepted : builder.profile.column column = .ok rendered) (positive : 1 ≤ limit)
variable (answers : ∀ cursor : Option Int, listing.AnsweredBy executor builder.profile
  (builder.cursorClauses rendered (cursor.map .int) limit.toNat).draft (limit.toNat + 1))

include records uncached aligned unset accepted positive answers

/-- From the cursor of some of the rows, a page is read of the others. -/
theorem cursorPaginate_rest
    (ascending : listing.Ascending (listing.satisfying builder.clauses.draft.wheres)
      (front ++ rest)) (session : Session (Logged World)) :
    ∃ statement,
      (engine.cursorPaginate builder column ((listing.placeOfLast front).map .int) limit).run
          session =
        (.ok (Engine.cursorPage column limit.toNat
            { rows := (rest.take (limit.toNat + 1)).map (engine.shown builder) }),
          session.afterExchange executor statement) := by
  have compiled := Builder.cursorClauses_compile aligned unset rendered
    ((listing.placeOfLast front).map .int) limit.toNat
  have made : builder.statementOf
      (.cursor column ((listing.placeOfLast front).map .int) limit.toNat) =
        (builder.cursorClauses rendered ((listing.placeOfLast front).map .int)
          limit.toNat).compile builder.profile := by
    rw [Builder.statementOf, accepted]
    rfl
  have read := Engine.cursorPaginate_run records uncached positive (made.trans compiled) session
  rw [received_rest aligned answers ascending session] at read
  exact ⟨_, read⟩

theorem walks
    (ascending : listing.Ascending (listing.satisfying builder.clauses.draft.wheres)
      (front ++ rest)) (session : Session (Logged World)) :
    ∃ pages after statements,
      CursorWalk engine builder column limit ((listing.placeOfLast front).map .int) session pages
        after ∧
      Covers limit.toNat (rest.map (engine.shown builder)) pages ∧
      session.Sends after statements ∧ statements.length = pages.length := by
  induction remaining : rest.length using Nat.strongRecOn generalizing front rest session with
  | _ count ih =>
      have size : 1 ≤ limit.toNat := by omega
      obtain ⟨statement, read⟩ := cursorPaginate_rest records uncached aligned unset accepted
        positive answers ascending session
      by_cases fits : rest.length ≤ limit.toNat
      · rw [cursorPage_last engine builder column fits] at read
        refine ⟨_, _, [statement], .last read rfl, Covers.single size ?_, Session.Sends.last, rfl⟩
        rw [List.length_map]
        exact fits
      · have further : limit.toNat < rest.length := Nat.lt_of_not_le fits
        have within : ∀ row ∈ rest, row ∈ listing.satisfying builder.clauses.draft.wheres :=
          fun row member => ascending.1.mem_iff.mp (List.mem_append_right front member)
        obtain ⟨place, found, page⟩ := cursorPage_onward engine size further within
        rw [page] at read
        have onward : listing.placeOfLast (front ++ rest.take limit.toNat) = some place := by
          unfold placeOfLast at found ⊢
          obtain ⟨row, last, _⟩ := Option.map_eq_some_iff.mp found
          rw [last] at found
          rw [List.getLast?_append, last]
          exact found
        rw [← List.take_append_drop limit.toNat rest, ← List.append_assoc] at ascending
        obtain ⟨pages, after, statements, walk, covers, sent, number⟩ :=
          ih (rest.drop limit.toNat).length (by rw [List.length_drop]; omega) ascending
            (session.afterExchange executor statement) rfl
        rw [onward] at walk
        rw [List.map_drop] at covers
        refine ⟨_, after, statement :: statements, .onward read rfl walk,
          covers.cons size ?_ (.int place), sent.step, ?_⟩
        · rw [List.length_map]
          exact further
        · rw [List.length_cons, List.length_cons, number]

end Run

end Listing

/-- Over an executor that answers each page with the first rows that satisfy its conditions, the
walk from the first page brings every matching row once, in ascending order, and sends one query for
each page. -/
theorem cursor_walk_brings_each_row_once {World : Type} (executor : Executor World)
    (engine : Engine (Logged World)) (records : engine.executor = executor.logged)
    (calls : List Call) (builder : Builder)
    (reached : engine.query.applyAll calls = .ok builder)
    (typed : ∀ call ∈ calls, call.isRaw = false) (uncached : engine.Uncached builder)
    (column rendered : String) (accepted : engine.profile.column column = .ok rendered)
    (limit : Int) (positive : 1 ≤ limit)
    (listing : Listing builder.clauses.draft.wheres rendered (resultKey column))
    (answers : ∀ cursor : Option Int, listing.AnsweredBy executor engine.profile
      (builder.cursorClauses rendered (cursor.map .int) limit.toNat).draft (limit.toNat + 1))
    (session : Session (Logged World)) :
    ∃ (ordered : List Row) (pages : List CursorPage) (after : Session (Logged World))
      (statements : List Statement),
      ordered.Perm (listing.satisfying builder.clauses.draft.wheres) ∧
      (ordered.Pairwise fun first second => listing.position first < listing.position second) ∧
      CursorWalk engine builder column limit none session pages after ∧
      (∀ others last, CursorWalk engine builder column limit none session others last →
        others = pages ∧ last = after) ∧
      Covers limit.toNat (ordered.map (engine.shown builder)) pages ∧
      session.Sends after statements ∧
      statements.length =
        max 1 (((listing.satisfying builder.clauses.draft.wheres).length + limit.toNat - 1) /
          limit.toNat) := by
  obtain ⟨kind, aligned, meant⟩ := Builder.reached_draft reached
  have unset := Clauses.raw_of_draft typed meant
  have same : engine.profile = builder.profile := kind.symm
  rw [same] at accepted answers
  obtain ⟨_, ordered, _, found, _⟩ := answers none _
    (builder.isPage_cursorClauses rendered none limit.toNat) session.world.world
  have ascending : listing.Ascending (listing.satisfying builder.clauses.draft.wheres)
      ([] ++ ordered) := found
  obtain ⟨pages, after, statements, walk, covers, sent, number⟩ :=
    Listing.walks records uncached aligned unset accepted positive answers ascending session
  have total := covers.count
  rw [List.length_map, found.1.length_eq] at total
  refine ⟨ordered, pages, after, statements, found.1, ascending.strict, walk, ?_, covers, sent,
    number.trans total⟩
  intro others last other
  exact other.unique walk

def member (id age rank : Int) : Row :=
  [("id", .number (.int id)), ("age", .number (.int age)), ("rank", .number (.int rank))]

def members : List Row :=
  [member 1 30 4, member 2 12 1, member 3 15 2, member 4 41 1, member 5 70 3]

def memberNumber (key : String) (row : Row) : Int :=
  match row.lookup key with
  | some (.number (.int number)) => number
  | _ => 0

def memberComparison (row : Row) (text : String) : Value → Bool
  | .int number =>
      if text = "\"age\" >= " then decide (number ≤ memberNumber "age" row)
      else if text = "\"rank\" = " then decide (number = memberNumber "rank" row)
      else decide (number < memberNumber "id" row)
  | _ => false

def memberTruth (row : Row) : List Piece → Bool
  | [.sql text, .slot value] => memberComparison row text value
  | [.sql _, .sql first, .slot left, .sql _, .sql second, .slot right, .sql _] =>
      memberComparison row first left || memberComparison row second right
  | _ => false

def memberConditions : List Condition :=
  [⟨.and, [.sql "\"age\" >= ", .slot (.int 18)]⟩, ⟨.or, [.sql "\"rank\" = ", .slot (.int 1)]⟩]

def memberListing : Listing memberConditions "\"id\"" "id" where
  rows := members
  truth := memberTruth
  position := memberNumber "id"
  grouped := fun _ _ _ => rfl
  compared := fun _ _ _ _ => rfl
  shown := by
    intro row among _
    simp only [members, List.mem_cons, List.not_mem_nil, or_false] at among
    rcases among with rfl | rfl | rfl | rfl | rfl
    all_goals exact ⟨rfl, rfl⟩
  distinct := by decide +kernel

def matchingMembers : List Row :=
  [member 1 30 4, member 2 12 1, member 4 41 1, member 5 70 3]

def membersExecutor : Executor Unit :=
  { query := fun _ bindings outside =>
      let behind :=
        match bindings[2]? with
        | some (.int value) =>
            matchingMembers.filter fun row => decide (value < memberNumber "id" row)
        | _ => matchingMembers
      (.ok { rows := behind.take 3 }, outside)
    execute := fun _ _ outside => (.ok {}, outside) }

def membersEngine : Engine (Logged Unit) :=
  { executor := membersExecutor.logged, profile := Dialect.postgresql.profile }

def memberCalls : List Call :=
  [.readFrom "members", .compare .and "age" ">=" (.int 18), .compare .or "rank" "=" (.int 1)]

theorem members_ascending {found : List Row} (part : found.Sublist matchingMembers) :
    memberListing.Ascending found found := by
  have whole : matchingMembers.Pairwise fun first second =>
      memberNumber "id" first ≤ memberNumber "id" second := by
    decide +kernel
  exact ⟨.refl found, whole.sublist part⟩

theorem members_bind_cursor (cursor : Option Int) :
    (membersEngine.query.applyAll memberCalls >>= fun builder =>
      ((builder.cursorClauses "\"id\"" (cursor.map .int) 2).compile
        Dialect.postgresql.profile).map fun statement => statement.bindings[2]?) =
      .ok (cursor.map .int) := by
  cases cursor with
  | none => rfl
  | some value => rfl

theorem cursor_walk_brings_members :
    ∃ builder, membersEngine.query.applyAll memberCalls = .ok builder ∧
      ∀ session : Session (Logged Unit),
        ∃ (pages : List CursorPage) (after : Session (Logged Unit)) (statements : List Statement),
          CursorWalk membersEngine builder "id" 2 none session pages after ∧
          Covers 2 matchingMembers pages ∧
          session.Sends after statements ∧ statements.length = 2 := by
  have accepted : (membersEngine.query.applyAll memberCalls).isOk := by
    decide +kernel
  have meant : Draft.applyAll Dialect.postgresql.profile {} memberCalls = .ok _ := rfl
  obtain ⟨builder, reached⟩ := ok_of_isOk accepted
  obtain ⟨same, aligned, drawn⟩ := Builder.reached_draft reached
  have kind : builder.profile = Dialect.postgresql.profile := same
  have unset := Clauses.raw_of_draft (by decide) drawn
  have conditions : builder.clauses.draft.wheres = memberConditions := by
    rw [← Except.ok.inj (meant.symm.trans drawn)]
    rfl
  let listing : Listing builder.clauses.draft.wheres "\"id\"" (resultKey "id") :=
    { memberListing with
      grouped := by rw [conditions]; exact memberListing.grouped
      compared := by rw [conditions]; exact memberListing.compared
      shown := by rw [conditions]; exact memberListing.shown
      distinct := by rw [conditions]; exact memberListing.distinct }
  have matching : listing.satisfying builder.clauses.draft.wheres = matchingMembers :=
    congrArg memberListing.satisfying conditions
  have answers (cursor : Option Int) :
      listing.AnsweredBy membersExecutor Dialect.postgresql.profile
        (builder.cursorClauses "\"id\"" (cursor.map .int) 2).draft 3 := by
    intro statement page outside
    have bound : statement.bindings[2]? = cursor.map .int := by
      have compiled := Builder.cursorClauses_compile aligned unset "\"id\"" (cursor.map .int) 2
      rw [kind] at compiled
      have same := members_bind_cursor cursor
      rw [reached] at same
      change ((builder.cursorClauses "\"id\"" (cursor.map .int) 2).compile
        Dialect.postgresql.profile).map (fun statement => statement.bindings[2]?) = _ at same
      rw [compiled, ← page.numbered.eq_statement] at same
      exact Except.ok.inj same
    refine ⟨_, _, rfl, ?_, rfl⟩
    rw [Listing.satisfying_cursorClauses aligned, matching, bound]
    cases cursor with
    | none => exact members_ascending (List.Sublist.refl _)
    | some place => exact members_ascending List.filter_sublist
  refine ⟨builder, reached, fun session => ?_⟩
  obtain ⟨ordered, pages, after, statements, found, ascending, walk, _, covers, sent, number⟩ :=
    cursor_walk_brings_each_row_once membersExecutor membersEngine rfl memberCalls builder
      reached (by decide) (.inl rfl) "id" "\"id\"" rfl 2 (by decide) listing answers session
  rw [matching] at found number
  have sorted : listing.Ascending matchingMembers ordered :=
    ⟨found, ascending.imp Int.le_of_lt⟩
  have own : listing.Ascending matchingMembers matchingMembers :=
    members_ascending (List.Sublist.refl _)
  have same : ordered = matchingMembers :=
    sorted.unique (fun row member => matching.symm ▸ member) own
  rw [same] at covers
  exact ⟨pages, after, statements, walk, covers, sent, number⟩

end BoundQuery
