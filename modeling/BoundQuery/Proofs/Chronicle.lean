import BoundQuery.Proofs.Capacity
import BoundQuery.Proofs.ReadThrough

/-!
What happens to a store in the course of a session. Each step is a sequence of moves, and some of
these are events: a value is stored for a time, a key is dropped, everything is cleared. What the
store holds later was left there by the last event of its key; and what such an event left stays
until its time is over, if there is room for all keys and the clock is never turned back.
-/

set_option autoImplicit false

namespace BoundQuery

/-! ### Events -/

/-- What is stored: the answer to a statement, or a value put by hand. -/
inductive Content where
  | result (statement : Statement) (output : QueryOutput)
  | value (json : Json)

def Content.json : Content → Json
  | result _ output => output.toJson
  | value json => json

inductive Event where
  | stored (key : String) (content : Content) (time lifetime : Nat)
  | dropped (key : String)
  | cleared

namespace Event

def concerns (key : String) : Event → Bool
  | stored own _ _ _ => own == key
  | dropped own => own == key
  | cleared => true

def storedKey? : Event → Option String
  | stored key _ _ _ => some key
  | _ => none

def entry? : Event → Option MemoryEntry
  | stored _ content time lifetime => some ⟨content.json, time, some (time + lifetime)⟩
  | _ => none

/-- What happened last to a key. -/
def last? (key : String) (events : List Event) : Option Event :=
  (events.filter (concerns key)).getLast?

/-- The keys under which something was stored. -/
def storedKeys (events : List Event) : Finset String :=
  (events.filterMap storedKey?).toFinset

theorem storedKeys_append (first second : List Event) :
    storedKeys (first ++ second) = storedKeys first ∪ storedKeys second := by
  unfold storedKeys
  rw [List.filterMap_append, List.toFinset_append]

theorem mem_storedKeys_single (key : String) (content : Content) (time lifetime : Nat) :
    key ∈ storedKeys [stored key content time lifetime] := by
  simp [storedKeys, storedKey?]

theorem last?_append (key : String) (first second : List Event) :
    last? key (first ++ second) = (last? key second).or (last? key first) := by
  unfold last?
  rw [List.filter_append, List.getLast?_append]

theorem mem_of_last? {key : String} {events : List Event} {event : Event}
    (last : last? key events = some event) : event ∈ events ∧ event.concerns key = true :=
  List.mem_filter.mp (List.mem_of_getLast? last)

theorem key_of_last? {key own : String} {events : List Event} {content : Content}
    {time lifetime : Nat} (last : last? key events = some (stored own content time lifetime)) :
    own = key :=
  beq_iff_eq.mp (mem_of_last? last).2

/-- An entry as it should be after the events, where these were the entries before. -/
def Leaves (events : List Event) (before : List (String × MemoryEntry))
    (kept : String × MemoryEntry) : Prop :=
  match last? kept.1 events with
  | some event => event.entry? = some kept.2
  | none => kept ∈ before

variable {first second events : List Event} {before middle : List (String × MemoryEntry)}
variable {kept : String × MemoryEntry}

theorem leaves_append :
    Leaves (first ++ second) before kept ↔
      (∃ event, last? kept.1 second = some event ∧ event.entry? = some kept.2) ∨
        (last? kept.1 second = none ∧ Leaves first before kept) := by
  unfold Leaves
  rw [last?_append]
  cases last? kept.1 second with
  | some event => simp
  | none => simp

theorem Leaves.join (earlier : kept ∈ middle → Leaves first before kept)
    (later : Leaves second middle kept) : Leaves (first ++ second) before kept := by
  rw [leaves_append]
  unfold Leaves at later
  cases last : last? kept.1 second with
  | some event =>
      rw [last] at later
      exact .inl ⟨event, rfl, later⟩
  | none =>
      rw [last] at later
      exact .inr ⟨rfl, earlier later⟩

theorem Leaves.split (whole : Leaves (first ++ second) before kept)
    (earlier : Leaves first before kept → kept ∈ middle) : Leaves second middle kept := by
  unfold Leaves
  rcases leaves_append.mp whole with ⟨event, last, left⟩ | ⟨last, left⟩
  · rw [last]
    exact left
  · rw [last]
    exact earlier left

theorem leaves_single {event : Event} :
    Leaves [event] before kept ↔
      (event.concerns kept.1 = true ∧ event.entry? = some kept.2) ∨
        (event.concerns kept.1 = false ∧ kept ∈ before) := by
  unfold Leaves last?
  cases concerned : event.concerns kept.1 with
  | true => simp [concerned]
  | false => simp [concerned]

end Event

/-! ### Moves -/

variable {Outside : Type}

section Moves

variable (setup : Setup Outside) (passes : Outside → Outside → Prop)

/-- One thing that an operation does to the store, or something that only goes on outside. -/
inductive Move : List Event → Site Outside → Site Outside → Prop where
  | elsewhere {before after : Site Outside} (same : after.store = before.store)
      (passed : passes before.outside after.outside) : Move [] before after
  | looked (before : Site Outside) (key : String) :
      Move [] before
        { before with store := (before.store.get (setup.clock before.outside) key).2 }
  | expired (before : Site Outside) :
      Move [] before { before with store := before.store.dropExpired (setup.clock before.outside) }
  | stored (before : Site Outside) (key : String) (content : Content) (lifetime : Nat) :
      Move [.stored key content (setup.clock before.outside) lifetime] before
        { before with
          store := before.store.set (setup.clock before.outside) key content.json (some lifetime) }
  | dropped (before : Site Outside) (key : String) :
      Move [.dropped key] before { before with store := before.store.remove key }
  | cleared (before : Site Outside) :
      Move [.cleared] before { before with store := before.store.clear }

inductive Moves : List Event → Site Outside → Site Outside → Prop where
  | refl (site : Site Outside) : Moves [] site site
  | step {events others : List Event} {before middle after : Site Outside}
      (first : Move setup passes events before middle) (rest : Moves others middle after) :
      Moves (events ++ others) before after

end Moves

variable {setup : Setup Outside} {passes : Outside → Outside → Prop}

theorem Move.moves {events : List Event} {before after : Site Outside}
    (move : Move setup passes events before after) : Moves setup passes events before after := by
  have alone := Moves.step move (.refl after)
  rwa [List.append_nil] at alone

theorem Moves.trans {first second : List Event} {before middle after : Site Outside}
    (one : Moves setup passes first before middle)
    (two : Moves setup passes second middle after) :
    Moves setup passes (first ++ second) before after := by
  induction one with
  | refl site => exact two
  | step move rest ih =>
      rw [List.append_assoc]
      exact .step move (ih two)

theorem Move.traces {events : List Event} {before after : Site Outside}
    (move : Move setup passes events before after) {kept : String × MemoryEntry}
    (member : kept ∈ after.store.entries) : Event.Leaves events before.store.entries kept := by
  cases move with
  | elsewhere same passed =>
      rw [same] at member
      exact member
  | looked before key => exact MemoryCache.mem_of_get member
  | expired before => exact MemoryCache.mem_of_dropExpired member
  | stored before key content lifetime =>
      rw [Event.leaves_single]
      rcases MemoryCache.mem_of_set_entry member with ⟨old, other⟩ | new
      · exact .inr ⟨beq_false_of_ne (Ne.symm other), old⟩
      · rw [new]
        exact .inl ⟨beq_self_eq_true key, rfl⟩
  | dropped before key =>
      rw [Event.leaves_single]
      obtain ⟨old, other⟩ := MemoryCache.mem_remove.mp member
      exact .inr ⟨beq_false_of_ne (Ne.symm other), old⟩
  | cleared before => cases member

/-- Whatever the store holds was left there by the last event of its key. -/
theorem Moves.traces {events : List Event} {before after : Site Outside}
    (moves : Moves setup passes events before after) :
    ∀ kept ∈ after.store.entries, Event.Leaves events before.store.entries kept := by
  induction moves with
  | refl site => exact fun _ member => member
  | step move rest ih =>
      intro kept member
      exact Event.Leaves.join move.traces (ih kept member)

/-- The clock goes on, or stands still. -/
def Setup.Onward (setup : Setup Outside) (before after : Outside) : Prop :=
  setup.clock before ≤ setup.clock after

theorem MemoryEntry.live_before {entry : MemoryEntry} {now later : Nat}
    (live : entry.isLive later = true) (earlier : now ≤ later) : entry.isLive now = true := by
  unfold isLive at live ⊢
  cases ends : entry.expires with
  | none => rfl
  | some instant =>
      rw [ends] at live
      simp only [decide_eq_true_eq] at live ⊢
      omega

theorem Move.onward {events : List Event} {before after : Site Outside}
    (move : Move setup setup.Onward events before after) :
    setup.clock before.outside ≤ setup.clock after.outside := by
  cases move with
  | elsewhere same passed => exact passed
  | _ => exact Nat.le_refl _

theorem Move.roomy {events : List Event} {before after : Site Outside} {keys : Finset String}
    (move : Move setup passes events before after) (given : Event.storedKeys events ⊆ keys)
    (roomy : before.store.Roomy keys) : after.store.Roomy keys := by
  cases move with
  | elsewhere same passed =>
      rw [same]
      exact roomy
  | looked before key => exact roomy.get _ key
  | expired before => exact roomy.filter _
  | stored before key content lifetime =>
      exact roomy.set (given (Event.mem_storedKeys_single key content _ lifetime)) _ _ _
  | dropped before key => exact roomy.remove key
  | cleared before =>
      refine ⟨List.nodup_nil, ?_, roomy.room⟩
      intro kept member
      cases member

theorem Move.lasts {events : List Event} {before after : Site Outside} {keys : Finset String}
    (move : Move setup setup.Onward events before after)
    (given : Event.storedKeys events ⊆ keys) (roomy : before.store.Roomy keys)
    {kept : String × MemoryEntry} (left : Event.Leaves events before.store.entries kept)
    (live : kept.2.isLive (setup.clock after.outside) = true) : kept ∈ after.store.entries := by
  cases move with
  | elsewhere same passed =>
      rw [same]
      exact left
  | looked before key => exact roomy.mem_get key left live
  | expired before => exact MemoryCache.mem_dropExpired left live
  | stored before key content lifetime =>
      rw [roomy.set_eq (given (Event.mem_storedKeys_single key content _ lifetime))]
      apply List.mem_append.mpr
      rcases Event.leaves_single.mp left with ⟨concerned, entry⟩ | ⟨other, old⟩
      · right
        obtain ⟨own, kept⟩ := kept
        rw [Event.concerns, beq_iff_eq] at concerned
        cases entry
        rw [concerned]
        exact List.mem_singleton_self _
      · left
        rw [Event.concerns, beq_eq_false_iff_ne] at other
        exact MemoryCache.mem_remove.mpr ⟨old, Ne.symm other⟩
  | dropped before key =>
      rcases Event.leaves_single.mp left with ⟨_, none⟩ | ⟨other, old⟩
      · cases none
      · rw [Event.concerns, beq_eq_false_iff_ne] at other
        exact MemoryCache.mem_remove.mpr ⟨old, Ne.symm other⟩
  | cleared before =>
      rcases Event.leaves_single.mp left with ⟨_, none⟩ | ⟨other, _⟩
      · cases none
      · cases other

namespace Moves

variable {events : List Event} {before after : Site Outside} {keys : Finset String}

theorem onward (moves : Moves setup setup.Onward events before after) :
    setup.clock before.outside ≤ setup.clock after.outside := by
  induction moves with
  | refl site => exact Nat.le_refl _
  | step move rest ih => exact Nat.le_trans move.onward ih

theorem roomy (moves : Moves setup passes events before after) :
    Event.storedKeys events ⊆ keys → before.store.Roomy keys → after.store.Roomy keys := by
  induction moves with
  | refl site => exact fun _ roomy => roomy
  | step move rest ih =>
      intro given roomy
      rw [Event.storedKeys_append] at given
      obtain ⟨own, others⟩ := Finset.union_subset_iff.mp given
      exact ih others (move.roomy own roomy)

/-- What the last event of a key left in the store stays there as long as it lives. -/
theorem lasts (moves : Moves setup setup.Onward events before after) :
    Event.storedKeys events ⊆ keys → before.store.Roomy keys →
      ∀ kept, Event.Leaves events before.store.entries kept →
        kept.2.isLive (setup.clock after.outside) = true → kept ∈ after.store.entries := by
  induction moves with
  | refl site => exact fun _ _ _ left _ => left
  | step move rest ih =>
      intro given roomy kept left live
      rw [Event.storedKeys_append] at given
      obtain ⟨own, others⟩ := Finset.union_subset_iff.mp given
      refine ih others (move.roomy own roomy) kept ?_ live
      -- An entry that lives at the end lived all along, since the clock has only gone on.
      refine left.split fun earlier => ?_
      exact move.lasts own roomy earlier (MemoryEntry.live_before live rest.onward)

end Moves

end BoundQuery
