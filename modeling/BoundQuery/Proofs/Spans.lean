import BoundQuery.Proofs.Draft

/-!
Clauses keep their values apart, in spans of one list. Here the spans of reachable clauses are shown
to lie inside the list and to be as long as their fragments need, and the clauses to stand at every
step for the draft that the same calls make.
-/

set_option autoImplicit false

namespace BoundQuery

structure Span.Within (span : Span) (bindings : BindingList) : Prop where
  ordered : span.start ≤ span.stop
  bounded : span.stop ≤ bindings.size

namespace BindingList

theorem length_slice {bindings : BindingList} {span : Span} (within : span.Within bindings) :
    (bindings.slice span).length = span.stop - span.start := by
  have ordered := within.ordered
  have bounded := within.bounded
  unfold size at bounded
  simp only [slice, List.length_take, List.length_drop]
  omega

theorem size_append (bindings : BindingList) (values : List Value) :
    (bindings.append values).2.size = bindings.size + values.length := by
  simp [append, size]

theorem append_within (bindings : BindingList) (values : List Value) :
    (bindings.append values).1.Within (bindings.append values).2 := by
  constructor
  · simp [append]
  · rw [size_append]
    simp [append]

end BindingList

theorem Span.Within.grow {span : Span} {bindings : BindingList} (within : span.Within bindings)
    (values : List Value) : span.Within (bindings.append values).2 := by
  constructor
  · exact within.ordered
  · have bounded := within.bounded
    rw [BindingList.size_append]
    omega

structure Fragment.Filled (fragment : Fragment) (bindings : BindingList) : Prop where
  within : fragment.span.Within bindings
  size : fragment.span.stop - fragment.span.start = fragment.slotCount

theorem Fragment.Filled.grow {fragment : Fragment} {bindings : BindingList}
    (filled : fragment.Filled bindings) (values : List Value) :
    fragment.Filled (bindings.append values).2 :=
  ⟨filled.within.grow values, filled.size⟩

namespace Clauses

/-- Every span lies inside the binding list and fits what it fills. -/
structure Aligned (clauses : Clauses) : Prop where
  wheres : ∀ predicate ∈ clauses.wheres, predicate.fragment.Filled clauses.bindings
  havings : ∀ predicate ∈ clauses.havings, predicate.fragment.Filled clauses.bindings
  insert : ∀ insert, clauses.insert = some insert →
    insert.span.Within clauses.bindings ∧ 0 < insert.columns.length ∧
      insert.span.stop - insert.span.start = insert.columns.length * insert.rowCount
  update : ∀ update, clauses.update = some update →
    update.span.Within clauses.bindings ∧
      update.span.stop - update.span.start = update.columns.length
  raw : ∀ raw, clauses.raw = some raw → raw.span.Within clauses.bindings

theorem aligned_empty : ({} : Clauses).Aligned := by
  constructor <;> simp

/-! ### The draft that clauses stand for -/

def frame (clauses : Clauses) : Clauses :=
  { clauses with
    wheres := [], havings := [], insert := none, update := none, raw := none, bindings := {} }

end Clauses

def Predicate.condition (bindings : BindingList) (predicate : Predicate) : Condition :=
  ⟨predicate.combinator,
    fillSlots predicate.fragment.parts (bindings.slice predicate.fragment.span)⟩

def Insert.insertion (bindings : BindingList) (insert : Insert) : Insertion :=
  ⟨insert.table, insert.columns,
    rowsOf insert.columns.length insert.rowCount (bindings.slice insert.span)⟩

def Update.assignment (bindings : BindingList) (update : Update) : Assignment :=
  ⟨update.table, update.columns.zip (bindings.slice update.span)⟩

def RawStatement.statement (bindings : BindingList) (raw : RawStatement) : Statement :=
  ⟨raw.sql, bindings.slice raw.span⟩

namespace Clauses

def draft (clauses : Clauses) : Draft :=
  { frame := clauses.frame
    wheres := clauses.wheres.map (Predicate.condition clauses.bindings)
    havings := clauses.havings.map (Predicate.condition clauses.bindings)
    insertion := clauses.insert.map (Insert.insertion clauses.bindings)
    assignment := clauses.update.map (Update.assignment clauses.bindings)
    raw := clauses.raw.map (RawStatement.statement clauses.bindings) }

/-- The clauses with further values collected and nothing yet that they fill. -/
def grow (clauses : Clauses) (values : List Value) : Clauses :=
  { clauses with bindings := (clauses.bindings.append values).2 }

theorem Aligned.grow {clauses : Clauses} (aligned : clauses.Aligned) (values : List Value) :
    (clauses.grow values).Aligned := by
  constructor
  · intro predicate member
    exact (aligned.wheres predicate member).grow values
  · intro predicate member
    exact (aligned.havings predicate member).grow values
  · intro insert pending
    obtain ⟨within, wide, size⟩ := aligned.insert insert pending
    exact ⟨within.grow values, wide, size⟩
  · intro update pending
    obtain ⟨within, size⟩ := aligned.update update pending
    exact ⟨within.grow values, size⟩
  · intro raw pending
    exact (aligned.raw raw pending).grow values

/-- Collecting values disturbs nothing that was bound before. -/
theorem draft_grow {clauses : Clauses} (aligned : clauses.Aligned) (values : List Value) :
    (clauses.grow values).draft = clauses.draft := by
  have keeps : ∀ span : Span, span.Within clauses.bindings →
      (clauses.bindings.append values).2.slice span = clauses.bindings.slice span :=
    fun span within => clauses.bindings.slice_append_of_le values span within.bounded
  have wheres : clauses.wheres.map (Predicate.condition (clauses.bindings.append values).2) =
      clauses.wheres.map (Predicate.condition clauses.bindings) := by
    apply List.map_congr_left
    intro predicate member
    simp only [Predicate.condition, keeps _ (aligned.wheres predicate member).within]
  have havings : clauses.havings.map (Predicate.condition (clauses.bindings.append values).2) =
      clauses.havings.map (Predicate.condition clauses.bindings) := by
    apply List.map_congr_left
    intro predicate member
    simp only [Predicate.condition, keeps _ (aligned.havings predicate member).within]
  have insertion : clauses.insert.map (Insert.insertion (clauses.bindings.append values).2) =
      clauses.insert.map (Insert.insertion clauses.bindings) := by
    cases pending : clauses.insert with
    | none => rfl
    | some insert =>
        simp only [Option.map_some, Insert.insertion, keeps _ (aligned.insert insert pending).1]
  have assignment : clauses.update.map (Update.assignment (clauses.bindings.append values).2) =
      clauses.update.map (Update.assignment clauses.bindings) := by
    cases pending : clauses.update with
    | none => rfl
    | some update =>
        simp only [Option.map_some, Update.assignment, keeps _ (aligned.update update pending).1]
  have raw : clauses.raw.map (RawStatement.statement (clauses.bindings.append values).2) =
      clauses.raw.map (RawStatement.statement clauses.bindings) := by
    cases pending : clauses.raw with
    | none => rfl
    | some raw =>
        simp only [Option.map_some, RawStatement.statement, keeps _ (aligned.raw raw pending)]
  simp only [draft, Clauses.grow, wheres, havings, insertion, assignment, raw]
  rfl

theorem addWhere_aligned {clauses : Clauses} (aligned : clauses.Aligned) (combinator : Combinator)
    (parts : List Part) (values : List Value)
    (filled : parts.countP Part.isSlot = values.length) :
    (clauses.addWhere combinator parts values).Aligned := by
  have grown := aligned.grow values
  refine ⟨?_, grown.havings, grown.insert, grown.update, grown.raw⟩
  intro predicate member
  rcases List.mem_append.mp member with old | new
  · exact grown.wheres predicate old
  · rw [List.mem_singleton.mp new]
    refine ⟨clauses.bindings.append_within values, ?_⟩
    simp [BindingList.append, Fragment.slotCount, filled]

theorem draft_addWhere {clauses : Clauses} (aligned : clauses.Aligned) (combinator : Combinator)
    (parts : List Part) (values : List Value) :
    (clauses.addWhere combinator parts values).draft =
      clauses.draft.addWhere combinator (fillSlots parts values) := by
  have own : Predicate.condition (clauses.bindings.append values).2
      ⟨combinator, ⟨parts, (clauses.bindings.append values).1⟩⟩ =
        ⟨combinator, fillSlots parts values⟩ := by
    simp only [Predicate.condition, BindingList.slice_append]
  rw [← draft_grow aligned values]
  simp only [draft, addWhere, grow, Draft.addWhere, List.map_append, List.map_cons,
    List.map_nil, own]
  rfl

theorem addHaving_aligned {clauses : Clauses} (aligned : clauses.Aligned) (parts : List Part)
    (values : List Value) (filled : parts.countP Part.isSlot = values.length) :
    (clauses.addHaving parts values).Aligned := by
  have grown := aligned.grow values
  refine ⟨grown.wheres, ?_, grown.insert, grown.update, grown.raw⟩
  intro predicate member
  rcases List.mem_append.mp member with old | new
  · exact grown.havings predicate old
  · rw [List.mem_singleton.mp new]
    refine ⟨clauses.bindings.append_within values, ?_⟩
    simp [BindingList.append, Fragment.slotCount, filled]

theorem draft_addHaving {clauses : Clauses} (aligned : clauses.Aligned) (parts : List Part)
    (values : List Value) :
    (clauses.addHaving parts values).draft = clauses.draft.addHaving (fillSlots parts values) := by
  have own : Predicate.condition (clauses.bindings.append values).2
      ⟨.and, ⟨parts, (clauses.bindings.append values).1⟩⟩ =
        ⟨.and, fillSlots parts values⟩ := by
    simp only [Predicate.condition, BindingList.slice_append]
  rw [← draft_grow aligned values]
  simp only [draft, addHaving, grow, Draft.addHaving, List.map_append, List.map_cons,
    List.map_nil, own]
  rfl

end Clauses

theorem fillSlots_append (left right : List Part) (first second : List Value)
    (filled : left.countP Part.isSlot = first.length) :
    fillSlots (left ++ right) (first ++ second) =
      fillSlots left first ++ fillSlots right second := by
  induction left generalizing first with
  | nil =>
      have empty : first = [] := List.length_eq_zero_iff.mp filled.symm
      subst empty
      rfl
  | cons part rest ih =>
      cases part with
      | sql text =>
          simp only [List.cons_append, fillSlots, List.cons.injEq, true_and]
          exact ih first (by simpa [Part.isSlot] using filled)
      | slot =>
          cases first with
          | nil => simp [Part.isSlot] at filled
          | cons value values =>
              simp only [List.cons_append, fillSlots, List.cons.injEq, true_and]
              exact ih values (by simpa [List.countP_cons, Part.isSlot] using filled)

theorem fillSlots_parenthesized (parts : List Part) (values : List Value)
    (filled : parts.countP Part.isSlot = values.length) :
    fillSlots (Clauses.parenthesized parts) values = Piece.enclosed (fillSlots parts values) := by
  have closing := fillSlots_append parts [.sql ")"] values [] filled
  rw [List.append_nil] at closing
  simp [Clauses.parenthesized, fillSlots, Piece.enclosed, closing]

theorem countP_parenthesized (parts : List Part) :
    (Clauses.parenthesized parts).countP Part.isSlot = parts.countP Part.isSlot := by
  simp [Clauses.parenthesized, Part.isSlot]

private theorem fill_furtherParts (bindings : BindingList) (predicates : List Predicate)
    (filled : ∀ predicate ∈ predicates, predicate.fragment.Filled bindings) :
    (predicates.flatMap (fun predicate =>
        Part.sql (" " ++ predicate.combinator.text ++ " ") :: predicate.fragment.parts)).countP
          Part.isSlot =
        (Clauses.chainValues bindings predicates).length ∧
      fillSlots
        (predicates.flatMap (fun predicate =>
          Part.sql (" " ++ predicate.combinator.text ++ " ") :: predicate.fragment.parts))
        (Clauses.chainValues bindings predicates) =
        (predicates.map (Predicate.condition bindings)).flatMap (fun condition =>
          Piece.sql (" " ++ condition.combinator.text ++ " ") :: condition.pieces) := by
  induction predicates with
  | nil => exact ⟨rfl, rfl⟩
  | cons predicate rest ih =>
      obtain ⟨counted, spelled⟩ :=
        ih (fun other member => filled other (List.mem_cons_of_mem _ member))
      have own := filled predicate List.mem_cons_self
      have size : predicate.fragment.parts.countP Part.isSlot =
          (bindings.slice predicate.fragment.span).length := by
        rw [BindingList.length_slice own.within, own.size]
        rfl
      simp only [Clauses.chainValues] at counted spelled
      constructor
      · simp only [Clauses.chainValues, List.flatMap_cons, List.cons_append, List.countP_cons,
          List.countP_append, List.length_append, counted, size]
        simp [Part.isSlot]
      · simp only [Clauses.chainValues, List.flatMap_cons, List.map_cons, List.cons_append,
          fillSlots, List.cons.injEq]
        rw [fillSlots_append _ _ _ _ size, spelled]
        exact ⟨rfl, rfl⟩

theorem countP_chainParts (bindings : BindingList) (predicates : List Predicate)
    (filled : ∀ predicate ∈ predicates, predicate.fragment.Filled bindings) :
    (Clauses.chainParts predicates).countP Part.isSlot =
      (Clauses.chainValues bindings predicates).length := by
  cases predicates with
  | nil => rfl
  | cons first rest =>
      have own := filled first List.mem_cons_self
      have further := (fill_furtherParts bindings rest
        (fun other member => filled other (List.mem_cons_of_mem _ member))).1
      simp only [Clauses.chainParts, Clauses.chainValues, List.flatMap_cons, List.countP_append,
        List.length_append] at further ⊢
      rw [further, BindingList.length_slice own.within, own.size]
      rfl

theorem fillSlots_chain (bindings : BindingList) (predicates : List Predicate)
    (filled : ∀ predicate ∈ predicates, predicate.fragment.Filled bindings) :
    fillSlots (Clauses.chainParts predicates) (Clauses.chainValues bindings predicates) =
      Piece.chain (predicates.map (Predicate.condition bindings)) := by
  cases predicates with
  | nil => rfl
  | cons first rest =>
      have own := filled first List.mem_cons_self
      have further := (fill_furtherParts bindings rest
        (fun other member => filled other (List.mem_cons_of_mem _ member))).2
      have size : first.fragment.parts.countP Part.isSlot =
          (bindings.slice first.fragment.span).length := by
        rw [BindingList.length_slice own.within, own.size]
        rfl
      simp only [Clauses.chainParts, Clauses.chainValues, List.flatMap_cons, List.map_cons,
        Piece.chain] at further ⊢
      rw [fillSlots_append _ _ _ _ size, further]
      rfl

end BoundQuery
