import BoundQuery.Value

/-!
Pieces of SQL with slots for values. Values are collected in one list that only grows; a fragment
names the stretch of it that fills its slots.
-/

set_option autoImplicit false

namespace BoundQuery

/-- The positions from `start` up to, not including, `stop`. -/
structure Span where
  start : Nat := 0
  stop : Nat := 0
deriving DecidableEq

structure BindingList where
  values : List Value := []

namespace BindingList

def size (bindings : BindingList) : Nat :=
  bindings.values.length

def slice (bindings : BindingList) (span : Span) : List Value :=
  (bindings.values.drop span.start).take (span.stop - span.start)

/-- Where the values land, and the longer list. -/
def append (bindings : BindingList) (values : List Value) : Span × BindingList :=
  (⟨bindings.size, bindings.size + values.length⟩, ⟨bindings.values ++ values⟩)

theorem slice_append (bindings : BindingList) (values : List Value) :
    (bindings.append values).2.slice (bindings.append values).1 = values := by
  simp [append, slice, size]

theorem slice_append_of_le (bindings : BindingList) (values : List Value) (span : Span)
    (within : span.stop ≤ bindings.size) :
    (bindings.append values).2.slice span = bindings.slice span := by
  unfold size at within
  simp only [append, slice, List.drop_append, List.take_append]
  rw [List.length_drop,
    show span.stop - span.start - (bindings.values.length - span.start) = 0 by omega]
  simp

end BindingList

inductive Part where
  | sql (text : String)
  | slot

namespace Part

def isSlot : Part → Bool
  | slot => true
  | sql _ => false

/-- A literal character, or `none` for a slot. A doubled question mark is a literal one. -/
def tokens : List Char → List (Option Char)
  | '?' :: '?' :: rest => some '?' :: tokens rest
  | '?' :: rest => none :: tokens rest
  | char :: rest => some char :: tokens rest
  | [] => []

theorem tokens_pair (rest : List Char) : tokens ('?' :: '?' :: rest) = some '?' :: tokens rest :=
  rfl

theorem tokens_single {rest : List Char} (single : rest.head? ≠ some '?') :
    tokens ('?' :: rest) = none :: tokens rest := by
  cases rest with
  | nil => rfl
  | cons char others =>
      rw [tokens]
      rintro more ⟨⟩
      exact single rfl

theorem tokens_other {char : Char} (other : char ≠ '?') (rest : List Char) :
    tokens (char :: rest) = some char :: tokens rest := by
  rw [tokens]
  · rintro more rfl
    exact absurd rfl other
  · exact other

@[elab_as_elim]
theorem marks_induction {motive : List Char → Prop} (nil : motive [])
    (pair : ∀ rest, motive rest → motive ('?' :: '?' :: rest))
    (single : ∀ rest, rest.head? ≠ some '?' → motive rest → motive ('?' :: rest))
    (other : ∀ char rest, char ≠ '?' → motive rest → motive (char :: rest)) (text : List Char) :
    motive text := by
  fun_induction tokens text with
  | case1 rest ih => exact pair rest ih
  | case2 rest alone ih =>
      refine single rest ?_ ih
      intro first
      obtain ⟨more, rfl⟩ := List.head?_eq_some_iff.mp first
      exact alone more rfl
  | case3 char rest _ differs ih => exact other char rest differs ih
  | case4 => exact nil

/-- The literal text read so far, when there is any. -/
def pending : List Char → List Part
  | [] => []
  | reversed => [sql (String.ofList reversed.reverse)]

def gather (reversed : List Char) : List (Option Char) → List Part
  | [] => pending reversed
  | some char :: rest => gather (char :: reversed) rest
  | none :: rest => pending reversed ++ slot :: gather [] rest

/-- Cuts the caller's SQL at its `?` slots. -/
def ofRaw (text : List Char) : List Part :=
  gather [] (tokens text)

end Part

structure Fragment where
  parts : List Part
  span : Span := {}

def Fragment.slotCount (fragment : Fragment) : Nat :=
  fragment.parts.countP Part.isSlot

end BoundQuery
