import BoundQuery.Statement.Compile
import Mathlib.Data.List.Basic

/-!
What pieces become when they are written: the slots are numbered from the left, and the value of
each stands in the bindings at the place of its number.
-/

set_option autoImplicit false

namespace BoundQuery

namespace Piece

def isSlot : Piece → Bool
  | slot _ => true
  | sql _ => false

def slotsBefore (pieces : List Piece) (position : Nat) : Nat :=
  (pieces.take position).countP isSlot

/-- How a position is written when the slots are numbered from the given number on. -/
def spelledFrom (placeholder : Nat → String) (number : Nat) (pieces : List Piece)
    (position : Nat) : List Char :=
  match pieces[position]? with
  | some (sql text) => text.toList
  | some (slot _) => (placeholder (number + slotsBefore pieces position)).toList
  | none => []

/-- The text is that of the pieces in their order, the slot at any position is numbered by the slots
up to it, and the value that stands in it is bound at this number. -/
structure Numbered (profile : Profile) (pieces : List Piece) (statement : Statement) : Prop where
  text : statement.sql.toList =
    (List.range pieces.length).flatMap (spelledFrom profile.placeholder 1 pieces)
  size : statement.bindings.length = pieces.countP isSlot
  bound : ∀ position value, pieces[position]? = some (slot value) →
    statement.bindings[slotsBefore pieces position]? = some value

theorem length_values (pieces : List Piece) : (values pieces).length = pieces.countP isSlot := by
  induction pieces with
  | nil => rfl
  | cons piece rest ih =>
      cases piece with
      | sql text => exact ih
      | slot value =>
          rw [List.countP_cons_of_pos rfl, ← ih]
          rfl

theorem slotsBefore_succ (piece : Piece) (rest : List Piece) (position : Nat) :
    slotsBefore (piece :: rest) (position + 1) =
      (if piece.isSlot then 1 else 0) + slotsBefore rest position := by
  simp only [slotsBefore, List.take_succ_cons, List.countP_cons]
  omega

theorem slotsBefore_sql (text : String) (rest : List Piece) (position : Nat) :
    slotsBefore (sql text :: rest) (position + 1) = slotsBefore rest position :=
  (slotsBefore_succ _ rest position).trans (Nat.zero_add _)

theorem slotsBefore_slot (value : Value) (rest : List Piece) (position : Nat) :
    slotsBefore (slot value :: rest) (position + 1) = slotsBefore rest position + 1 :=
  (slotsBefore_succ _ rest position).trans (Nat.add_comm 1 _)

theorem writeFrom_eq (placeholder : Nat → String) (pieces : List Piece) :
    ∀ number : Nat, writeFrom placeholder number pieces =
      (List.range pieces.length).flatMap (spelledFrom placeholder number pieces) := by
  induction pieces with
  | nil =>
      intro number
      rfl
  | cons piece rest ih =>
      intro number
      have behind : ∀ position, spelledFrom placeholder number (piece :: rest) (position + 1) =
          spelledFrom placeholder (number + if piece.isSlot then 1 else 0) rest position := by
        intro position
        simp only [spelledFrom, List.getElem?_cons_succ, slotsBefore_succ, Nat.add_assoc]
      have further : (List.range rest.length).flatMap
            (fun position => spelledFrom placeholder number (piece :: rest) (position + 1)) =
          writeFrom placeholder (number + if piece.isSlot then 1 else 0) rest := by
        rw [ih]
        exact congrArg (fun spell => (List.range rest.length).flatMap spell) (funext behind)
      rw [List.length_cons, List.range_succ_eq_map, List.flatMap_cons, List.flatMap_map, further]
      cases piece with
      | sql text => rfl
      | slot value => rfl

theorem values_getElem? (pieces : List Piece) :
    ∀ position value, pieces[position]? = some (slot value) →
      (values pieces)[slotsBefore pieces position]? = some value := by
  induction pieces with
  | nil =>
      intro position value found
      cases found
  | cons piece rest ih =>
      intro position value found
      cases position with
      | zero =>
          rw [List.getElem?_cons_zero] at found
          cases found
          rfl
      | succ position =>
          have further := ih position value found
          cases piece with
          | sql text =>
              rw [slotsBefore_sql]
              exact further
          | slot other =>
              rw [slotsBefore_slot]
              exact further

theorem statement_numbered (profile : Profile) (pieces : List Piece) :
    Numbered profile pieces (statement profile pieces) := by
  constructor
  · rw [statement, String.toList_ofList, writeFrom_eq]
  · exact length_values pieces
  · exact values_getElem? pieces

theorem values_of_bound {pieces : List Piece} : ∀ {bindings : List Value},
    bindings.length = pieces.countP isSlot →
      (∀ position value, pieces[position]? = some (slot value) →
        bindings[slotsBefore pieces position]? = some value) →
          bindings = values pieces := by
  induction pieces with
  | nil => exact fun size _ => List.length_eq_zero_iff.mp size
  | cons piece rest ih =>
      intro bindings size bound
      cases piece with
      | sql text =>
          refine ih size fun position value there => ?_
          have own := bound (position + 1) value there
          rwa [slotsBefore_sql] at own
      | slot first =>
          obtain ⟨others, rfl⟩ := List.head?_eq_some_iff.mp
            (List.head?_eq_getElem? ▸ bound 0 first rfl)
          rw [List.countP_cons_of_pos rfl] at size
          refine congrArg (first :: ·) (ih (Nat.succ.inj size) fun position value there => ?_)
          have own := bound (position + 1) value there
          rwa [slotsBefore_slot, List.getElem?_cons_succ] at own

/-- There is one such statement. -/
theorem Numbered.eq_statement {profile : Profile} {pieces : List Piece} {statement : Statement}
    (numbered : Numbered profile pieces statement) :
    statement = Piece.statement profile pieces := by
  have text : statement.sql = (Piece.statement profile pieces).sql :=
    String.toList_inj.mp (numbered.text.trans (statement_numbered profile pieces).text.symm)
  have values : statement.bindings = Piece.values pieces :=
    values_of_bound numbered.size numbered.bound
  cases statement
  cases text
  cases values
  rfl

/-! ### Pieces that differ in their cuts alone -/

structure Alike (left right : List Piece) : Prop where
  written : ∀ placeholder number,
    writeFrom placeholder number left = writeFrom placeholder number right
  values : values left = values right

theorem writeFrom_append (placeholder : Nat → String) (left right : List Piece) :
    ∀ number : Nat, writeFrom placeholder number (left ++ right) =
      writeFrom placeholder number left ++
        writeFrom placeholder (number + (values left).length) right := by
  induction left with
  | nil =>
      intro number
      rfl
  | cons piece rest ih =>
      intro number
      cases piece with
      | sql text =>
          simp only [List.cons_append, writeFrom, ih, List.append_assoc]
          rfl
      | slot value =>
          simp only [List.cons_append, writeFrom, ih, List.append_assoc]
          rw [show (Piece.values (slot value :: rest)).length = (Piece.values rest).length + 1 from
            rfl, Nat.add_assoc, Nat.add_comm 1]

theorem values_append (left right : List Piece) :
    values (left ++ right) = values left ++ values right :=
  List.filterMap_append

theorem separated_cons (entry next : List Piece) (rest : List (List Piece)) :
    ((entry :: next :: rest).intersperse [sql ", "]).flatten =
      entry ++ sql ", " :: ((next :: rest).intersperse [sql ", "]).flatten := by
  simp

/-- What joins at a comma and holds of each entry holds of the entries between commas. -/
theorem separated_induction {motive : List Piece → Prop} (empty : motive [])
    (joined : ∀ {left right : List Piece}, motive left → motive right →
      motive (left ++ sql ", " :: right)) :
    ∀ {entries : List (List Piece)}, (∀ entry ∈ entries, motive entry) →
      motive ((entries.intersperse [sql ", "]).flatten) := by
  intro entries
  induction entries with
  | nil => exact fun _ => empty
  | cons entry rest ih =>
      intro each
      obtain ⟨own, others⟩ := List.forall_mem_cons.mp each
      cases rest with
      | nil => simpa using own
      | cons next more =>
          rw [separated_cons]
          exact joined own (ih others)

theorem statement_between (profile : Profile) (opening closing : String) (pieces : List Piece) :
    statement profile (sql opening :: pieces ++ [sql closing]) =
      ⟨opening ++ (statement profile pieces).sql ++ closing,
        (statement profile pieces).bindings⟩ := by
  have written : String.ofList
      (writeFrom profile.placeholder 1 (sql opening :: pieces ++ [sql closing])) =
        opening ++ String.ofList (writeFrom profile.placeholder 1 pieces) ++ closing := by
    apply String.toList_inj.mp
    simp [writeFrom, writeFrom_append]
  have bound : values (sql opening :: pieces ++ [sql closing]) = values pieces := by
    rw [values_append]
    exact List.append_nil _
  rw [statement, written, bound]
  rfl

namespace Alike

theorem refl (pieces : List Piece) : Alike pieces pieces :=
  ⟨fun _ _ => rfl, rfl⟩

theorem append {left right before after : List Piece} (first : Alike left before)
    (second : Alike right after) : Alike (left ++ right) (before ++ after) := by
  constructor
  · intro placeholder number
    rw [writeFrom_append, writeFrom_append, first.written, first.values, second.written]
  · rw [values_append, values_append, first.values, second.values]

theorem cons (piece : Piece) {left right : List Piece} (rest : Alike left right) :
    Alike (piece :: left) (piece :: right) :=
  append (refl [piece]) rest

theorem merged (first second third : String) (pieces : List Piece) :
    Alike (sql first :: sql second :: sql third :: pieces)
      (sql (first ++ second ++ third) :: pieces) := by
  constructor
  · intro placeholder number
    simp [writeFrom]
  · rfl

theorem trans {first second third : List Piece} (left : Alike first second)
    (right : Alike second third) : Alike first third :=
  ⟨fun placeholder number => (left.written placeholder number).trans
    (right.written placeholder number), left.values.trans right.values⟩

theorem statement {left right : List Piece} (alike : Alike left right) (profile : Profile) :
    Piece.statement profile left = Piece.statement profile right := by
  rw [Piece.statement, Piece.statement, alike.written, alike.values]

end Alike

end Piece

end BoundQuery
