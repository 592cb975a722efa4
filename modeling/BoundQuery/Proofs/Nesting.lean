import BoundQuery.Json.Writer
import BoundQuery.Proofs.Phrases

/-!
How JSON text is nested. A scan from the left keeps track of string literals and of the brackets and
braces that are open. Every written value closes what it opens and shows no comma outside of them,
so an array can be cut into its items in one way only, and its text never ends in the text of
another array.
-/

set_option autoImplicit false

namespace BoundQuery.Json

/-! ### Scanning -/

inductive Mode where
  | plain
  | quoted
  | escaped
deriving DecidableEq

inductive Mark where
  | quote
  | backslash
  | opening
  | closing
  | comma
  | other
deriving DecidableEq

def markOf (char : Char) : Mark :=
  if char == '"' then .quote
  else if char == '\\' then .backslash
  else if char == '[' || char == '\x7b' then .opening
  else if char == ']' || char == '\x7d' then .closing
  else if char == ',' then .comma
  else .other

structure Scan where
  mode : Mode := .plain
  depth : Nat := 0

namespace Scan

/-- Refuses what no written value contains. A comma outside of all brackets is refused as well,
except in a listing. -/
def advance (listing : Bool) : Scan → Mark → Option Scan
  | ⟨.plain, depth⟩, .quote => some ⟨.quoted, depth⟩
  | ⟨.plain, _⟩, .backslash => none
  | ⟨.plain, depth⟩, .opening => some ⟨.plain, depth + 1⟩
  | ⟨.plain, 0⟩, .closing => none
  | ⟨.plain, depth + 1⟩, .closing => some ⟨.plain, depth⟩
  | ⟨.plain, 0⟩, .comma => if listing then some ⟨.plain, 0⟩ else none
  | ⟨.quoted, depth⟩, .quote => some ⟨.plain, depth⟩
  | ⟨.quoted, depth⟩, .backslash => some ⟨.escaped, depth⟩
  | ⟨.escaped, _⟩, .opening => none
  | ⟨.escaped, depth⟩, _ => some ⟨.quoted, depth⟩
  | scan, _ => some scan

def step (listing : Bool) (scan : Scan) (char : Char) : Option Scan :=
  scan.advance listing (markOf char)

def run (listing : Bool) (scan : Scan) (text : List Char) : Option Scan :=
  text.foldlM (step listing) scan

def deeper (scan : Scan) : Scan :=
  { scan with depth := scan.depth + 1 }

def Opposed (first second : Scan) : Prop :=
  (first.mode = .plain ∧ second.mode = .quoted) ∨ (second.mode = .plain ∧ first.mode = .quoted)

variable {listing other : Bool} {scan after first second firstAfter secondAfter : Scan}

theorem run_cons {char : Char} {text : List Char} :
    run listing scan (char :: text) = (step listing scan char).bind (fun next =>
      run listing next text) :=
  rfl

theorem run_append {front rest : List Char} :
    run listing scan (front ++ rest) = (run listing scan front).bind (fun next =>
      run listing next rest) :=
  List.foldlM_append

theorem advance_deeper {mark : Mark} (advanced : advance listing scan mark = some after) :
    advance other scan.deeper mark = some after.deeper := by
  obtain ⟨mode, depth⟩ := scan
  cases mode with
  | plain =>
      cases mark with
      | backslash => cases advanced
      | closing =>
          cases depth with
          | zero => cases advanced
          | succ depth =>
              cases advanced
              rfl
      | comma =>
          cases depth with
          | zero =>
              cases listing with
              | true =>
                  cases advanced
                  rfl
              | false => cases advanced
          | succ depth =>
              cases advanced
              rfl
      | _ =>
          cases advanced
          rfl
  | quoted =>
      cases mark with
      | _ =>
          cases advanced
          rfl
  | escaped =>
      cases mark with
      | opening => cases advanced
      | _ =>
          cases advanced
          rfl

theorem run_deeper {text : List Char} :
    ∀ {scan : Scan}, run listing scan text = some after →
      run other scan.deeper text = some after.deeper := by
  induction text with
  | nil =>
      intro scan ran
      cases ran
      rfl
  | cons char rest ih =>
      intro scan ran
      rw [run_cons] at ran ⊢
      obtain ⟨next, stepped, further⟩ := Option.bind_eq_some_iff.mp ran
      unfold step at stepped ⊢
      rw [advance_deeper stepped]
      exact ih further

theorem advance_listing {mark : Mark} (advanced : advance false scan mark = some after) :
    advance true scan mark = some after := by
  obtain ⟨mode, depth⟩ := scan
  cases mode with
  | plain =>
      cases mark with
      | comma =>
          cases depth with
          | zero => cases advanced
          | succ depth => exact advanced
      | closing =>
          cases depth with
          | zero => cases advanced
          | succ depth => exact advanced
      | _ => exact advanced
  | _ =>
      cases mark with
      | _ => exact advanced

theorem run_listing {text : List Char} :
    ∀ {scan : Scan}, run false scan text = some after → run true scan text = some after := by
  induction text with
  | nil => exact fun ran => ran
  | cons char rest ih =>
      intro scan ran
      rw [run_cons] at ran ⊢
      obtain ⟨next, stepped, further⟩ := Option.bind_eq_some_iff.mp ran
      unfold step at stepped ⊢
      rw [advance_listing stepped]
      exact ih further

/-- Outside of string literals there are no backslashes, so a quote that ends the literal of one
scan begins a literal of the other. -/
private theorem advance_apart {mark : Mark} {depth height : Nat}
    (outside : advance listing ⟨.plain, depth⟩ mark = some firstAfter)
    (inside : advance other ⟨.quoted, height⟩ mark = some secondAfter) :
    Opposed firstAfter secondAfter := by
  cases mark with
  | quote =>
      cases outside
      cases inside
      exact .inr ⟨rfl, rfl⟩
  | backslash => cases outside
  | closing =>
      cases inside
      cases depth with
      | zero => cases outside
      | succ depth =>
          cases outside
          exact .inl ⟨rfl, rfl⟩
  | comma =>
      cases inside
      cases depth with
      | zero =>
          cases listing with
          | true =>
              cases outside
              exact .inl ⟨rfl, rfl⟩
          | false => cases outside
      | succ depth =>
          cases outside
          exact .inl ⟨rfl, rfl⟩
  | _ =>
      cases outside
      cases inside
      exact .inl ⟨rfl, rfl⟩

theorem advance_opposed {mark : Mark} (opposed : Opposed first second)
    (advanced : advance listing first mark = some firstAfter)
    (also : advance other second mark = some secondAfter) : Opposed firstAfter secondAfter := by
  obtain ⟨firstMode, firstDepth⟩ := first
  obtain ⟨secondMode, secondDepth⟩ := second
  rcases opposed with ⟨outside, inside⟩ | ⟨outside, inside⟩
  · cases outside
    cases inside
    exact advance_apart advanced also
  · cases outside
    cases inside
    exact (advance_apart also advanced).symm

theorem run_opposed {text : List Char} :
    ∀ {first second : Scan}, Opposed first second → run listing first text = some firstAfter →
      run other second text = some secondAfter → Opposed firstAfter secondAfter := by
  induction text with
  | nil =>
      intro first second opposed ran also
      cases ran
      cases also
      exact opposed
  | cons char rest ih =>
      intro first second opposed ran also
      rw [run_cons] at ran also
      obtain ⟨next, stepped, further⟩ := Option.bind_eq_some_iff.mp ran
      obtain ⟨following, moved, onward⟩ := Option.bind_eq_some_iff.mp also
      exact ih (advance_opposed opposed stepped moved) further onward

end Scan

/-! ### Terms and listings -/

/-- The text closes what it opens and shows no comma outside of brackets and string literals. -/
def Term (text : List Char) : Prop :=
  Scan.run false {} text = some {}

/-- The text closes what it opens; commas may stand anywhere. -/
def Listing (text : List Char) : Prop :=
  Scan.run true {} text = some {}

open Scan

theorem Term.listing {text : List Char} (term : Term text) : Listing text :=
  run_listing term

theorem Term.append {front rest : List Char} (first : Term front) (second : Term rest) :
    Term (front ++ rest) := by
  unfold Term at first second ⊢
  rw [run_append, first]
  exact second

theorem Listing.append {front rest : List Char} (first : Listing front)
    (second : Listing rest) : Listing (front ++ rest) := by
  unfold Listing at first second ⊢
  rw [run_append, first]
  exact second

theorem term_nil : Term [] :=
  rfl

def Bare (text : List Char) : Prop :=
  ∀ char ∈ text, markOf char = .other

instance (text : List Char) : Decidable (Bare text) :=
  List.decidableBAll (fun char => markOf char = .other) text

theorem Bare.append {front rest : List Char} (first : Bare front) (second : Bare rest) :
    Bare (front ++ rest) :=
  fun char member => (List.mem_append.mp member).elim (first char) (second char)

theorem Bare.of_subset {text whole : List Char} (bare : Bare whole)
    (subset : ∀ char ∈ text, char ∈ whole) : Bare text :=
  fun char member => bare char (subset char member)

theorem Bare.term {text : List Char} (bare : Bare text) : Term text := by
  induction text with
  | nil => exact term_nil
  | cons char rest ih =>
      have own : step false {} char = some {} := by
        unfold step
        rw [bare char List.mem_cons_self]
        rfl
      unfold Term at ih ⊢
      rw [run_cons, own]
      exact ih (bare.of_subset (fun next member => List.mem_cons_of_mem _ member))

theorem Listing.enclosed {opening closing : Char} {body : List Char} (listing : Listing body)
    (opens : markOf opening = .opening) (closes : markOf closing = .closing) :
    Term (opening :: (body ++ [closing])) := by
  have inner : run false (deeper {}) body = some (deeper {}) := run_deeper listing
  have first : step false {} opening = some (deeper {}) := by
    unfold step
    rw [opens]
    rfl
  have last : run false (deeper {}) [closing] = some {} := by
    rw [run_cons]
    unfold step
    rw [closes]
    rfl
  unfold Term
  rw [run_cons, first, Option.bind_some, run_append, inner, Option.bind_some, last]

theorem markOf_digit {char : Char} (digit : char.isDigit = true) : markOf char = .other := by
  have apart (mark : Char) (outside : mark.toNat < 48 ∨ 57 < mark.toNat) : ¬char = mark :=
    ne_of_isDigit digit outside
  unfold markOf
  simp only [beq_iff_eq, Bool.or_eq_true]
  rw [if_neg (apart _ (by decide)), if_neg (apart _ (by decide)),
    if_neg (not_or.mpr ⟨apart _ (by decide), apart _ (by decide)⟩),
    if_neg (not_or.mpr ⟨apart _ (by decide), apart _ (by decide)⟩), if_neg (apart _ (by decide))]

theorem bare_digits (number : Nat) : Bare (Nat.toDigits 10 number) :=
  fun _ member => markOf_digit (Nat.isDigit_of_mem_toDigits (by decide) (by decide) member)

theorem bare_sign (negative : Bool) : Bare (Decimal.signOf negative) := by
  cases negative with
  | _ => decide

theorem bare_zeros (count : Nat) : Bare (List.replicate count '0') :=
  fun _ member => by
    rw [List.eq_of_mem_replicate member]
    rfl

theorem bare_positional {digits : List Char} (bare : Bare digits) (exponent : Int) :
    Bare (Decimal.positional Decimal.dataLayout digits exponent) := by
  unfold Decimal.positional
  split
  · exact (bare.append (bare_zeros _)).append (by decide)
  · have padded := (bare_zeros ((-exponent).toNat + 1 - digits.length)).append bare
    refine ((padded.of_subset ?_).append (by decide)).append (padded.of_subset ?_)
    · exact fun char member => List.mem_of_mem_take member
    · exact fun char member => List.mem_of_mem_drop member

theorem bare_scientific {digits : List Char} (bare : Bare digits) (leading : Int) :
    Bare (Decimal.scientific Decimal.dataLayout digits leading) := by
  have point : Bare ['.'] := by decide
  have mark : Bare Decimal.dataLayout.exponentMark := by decide
  have sign : Bare (if leading < 0 then ['-'] else Decimal.dataLayout.positiveSign) := by
    split
    · decide
    · decide
  unfold Decimal.scientific
  refine (Bare.append (Bare.append (Bare.append ?_ mark) sign)) (bare_digits _)
  match digits with
  | [] => exact bare
  | [digit] => exact bare
  | digit :: second :: rest =>
      have first : Bare [digit] :=
        bare.of_subset (fun char member => List.mem_singleton.mp member ▸ List.mem_cons_self)
      exact first.append
        (point.append (bare.of_subset (fun char member => List.mem_cons_of_mem _ member)))

theorem bare_layout (binary : Decimal.Binary) : Bare (Decimal.dataLayout.write binary) := by
  have shown : Bare ((Nat.toDigits 10 (Decimal.shortest binary).coefficient).reverse.dropWhile
      (· == '0')).reverse :=
    (bare_digits _).of_subset fun char member =>
      List.mem_reverse.mp ((List.dropWhile_sublist _).subset (List.mem_reverse.mp member))
  have laid : ∀ (positionally : Bool) (digits : List Char) (exponent leading : Int), Bare digits →
      Bare (if positionally then Decimal.positional Decimal.dataLayout digits exponent
        else Decimal.scientific Decimal.dataLayout digits leading) := by
    intro positionally digits exponent leading bare
    split
    · exact bare_positional bare exponent
    · exact bare_scientific bare leading
  unfold Decimal.Layout.write
  refine (bare_sign _).append ?_
  split
  · exact laid _ _ _ _ (by decide)
  · exact laid _ _ _ _ shown

theorem bare_float (value : Float) : Bare (writeFloat value) := by
  unfold writeFloat
  split
  · exact bare_layout _
  · decide

theorem bare_number (number : Number) : Bare number.write := by
  cases number with
  | int value => exact (bare_sign _).append (bare_digits _)
  | float value => exact bare_float value

def Literal (text : List Char) : Prop :=
  run false ⟨.quoted, 0⟩ text = some ⟨.quoted, 0⟩

theorem Literal.append {front rest : List Char} (first : Literal front) (second : Literal rest) :
    Literal (front ++ rest) := by
  unfold Literal at first second ⊢
  rw [run_append, first]
  exact second

theorem Bare.literal {text : List Char} (bare : Bare text) : Literal text := by
  induction text with
  | nil => rfl
  | cons char rest ih =>
      have own : step false ⟨.quoted, 0⟩ char = some ⟨.quoted, 0⟩ := by
        unfold step
        rw [bare char List.mem_cons_self]
        rfl
      unfold Literal at ih ⊢
      rw [run_cons, own]
      exact ih (bare.of_subset (fun next member => List.mem_cons_of_mem _ member))

theorem bare_hexDigits {code : Nat} (small : code < 16) : Bare (Text.hexDigits code) := by
  have each : ∀ code < 16, markOf (Nat.digitChar code) = .other := by decide
  unfold Text.hexDigits
  rw [Nat.toDigits_of_lt_base small]
  intro char member
  rw [List.mem_singleton.mp member]
  exact each code small

theorem literal_ite {test : Prop} [Decidable test] {left right : List Char}
    (first : test → Literal left) (second : ¬test → Literal right) :
    Literal (if test then left else right) := by
  by_cases own : test
  · rw [if_pos own]
    exact first own
  · rw [if_neg own]
    exact second own

theorem literal_char (char : Char) : Literal (writeChar char) := by
  unfold writeChar
  refine literal_ite (fun _ => rfl) fun quote => ?_
  refine literal_ite (fun _ => rfl) fun backslash => ?_
  refine literal_ite (fun _ => rfl) fun _ => ?_
  refine literal_ite (fun _ => rfl) fun _ => ?_
  refine literal_ite (fun _ => rfl) fun _ => ?_
  refine literal_ite (fun _ => rfl) fun _ => ?_
  refine literal_ite (fun _ => rfl) fun _ => ?_
  refine literal_ite (fun control => ?_) fun _ => ?_
  · have code : char.toNat < 0x20 := control
    have escape : Literal ['\\', 'u', '0', '0'] := rfl
    have first : Literal (Text.hexDigits (char.toNat / 16)) := (bare_hexDigits (by omega)).literal
    exact (escape.append first).append (bare_hexDigits (Nat.mod_lt _ (by decide))).literal
  · -- Any other character stands for itself; it is neither of the two marks.
    have kind : markOf char ≠ .quote ∧ markOf char ≠ .backslash := by
      unfold markOf
      rw [if_neg quote, if_neg backslash]
      split
      · decide
      split
      · decide
      split
      · decide
      · decide
    unfold Literal
    rw [run_cons]
    unfold step
    revert kind
    cases markOf char with
    | quote => exact fun kind => absurd rfl kind.1
    | backslash => exact fun kind => absurd rfl kind.2
    | _ => exact fun _ => rfl

theorem term_string (text : String) : Term (writeString text) := by
  have content : Literal (text.toList.flatMap writeChar) := by
    induction text.toList with
    | nil => rfl
    | cons char rest ih =>
        rw [List.flatMap_cons]
        exact (literal_char char).append ih
  have opens : step false {} '"' = some ⟨.quoted, 0⟩ := rfl
  have closes : run false ⟨.quoted, 0⟩ ['"'] = some {} := rfl
  unfold Term writeString
  rw [List.cons_append, run_cons, opens, Option.bind_some, run_append, content, Option.bind_some,
    closes]

mutual

theorem term_write : ∀ value : Json, Term value.write
  | .null => Bare.term (by decide)
  | .bool true => Bare.term (by decide)
  | .bool false => Bare.term (by decide)
  | .number value => (bare_number value).term
  | .string text => term_string text
  | .array items => by
      obtain ⟨body, written, listing⟩ := listing_items items
      change Term ('[' :: Json.writeItems items)
      rw [written]
      exact listing.enclosed rfl rfl
  | .object members => by
      obtain ⟨body, written, listing⟩ := listing_members members
      change Term ('\x7b' :: Json.writeMembers members)
      rw [written]
      exact listing.enclosed rfl rfl

theorem listing_items : ∀ items : List Json,
    ∃ body, Json.writeItems items = body ++ [']'] ∧ Listing body
  | [] => ⟨[], rfl, rfl⟩
  | [item] => ⟨item.write, rfl, (term_write item).listing⟩
  | item :: next :: rest => by
      obtain ⟨body, written, listing⟩ := listing_items (next :: rest)
      have comma : Listing [','] := rfl
      refine ⟨item.write ++ ',' :: body, ?_, ?_⟩
      · rw [Json.writeItems, written, List.append_assoc, List.cons_append]
        exact List.cons_ne_nil _ _
      · exact (term_write item).listing.append (comma.append listing)

theorem listing_members : ∀ members : List (String × Json),
    ∃ body, Json.writeMembers members = body ++ ['\x7d'] ∧ Listing body
  | [] => ⟨[], rfl, rfl⟩
  | [(name, value)] => by
      have colon : Term [':'] := rfl
      refine ⟨writeString name ++ ':' :: value.write, ?_, ?_⟩
      · rw [Json.writeMembers, List.append_assoc, List.cons_append]
      · exact ((term_string name).append (colon.append (term_write value))).listing
  | (name, value) :: next :: rest => by
      obtain ⟨body, written, listing⟩ := listing_members (next :: rest)
      have colon : Term [':'] := rfl
      have comma : Listing [','] := rfl
      refine ⟨writeString name ++ ':' :: value.write ++ ',' :: body, ?_, ?_⟩
      · rw [Json.writeMembers, written]
        · simp only [List.append_assoc, List.cons_append]
        · exact List.cons_ne_nil _ _
      · exact ((term_string name).append (colon.append (term_write value))).listing.append
          (comma.append listing)

end

theorem layout_ne_nil (binary : Decimal.Binary) : Decimal.dataLayout.write binary ≠ [] := by
  have whole : Decimal.dataLayout.wholeMark ≠ [] := List.cons_ne_nil _ _
  have positional : ∀ digits exponent,
      Decimal.positional Decimal.dataLayout digits exponent ≠ [] := by
    intro digits exponent
    unfold Decimal.positional
    split
    · exact List.append_ne_nil_of_right_ne_nil _ whole
    · exact List.append_ne_nil_of_left_ne_nil (List.append_ne_nil_of_right_ne_nil _ (by decide)) _
  have scientific : ∀ digits leading,
      Decimal.scientific Decimal.dataLayout digits leading ≠ [] := by
    intro digits leading
    exact List.append_ne_nil_of_right_ne_nil _ Nat.toDigits_ne_nil
  unfold Decimal.Layout.write
  refine List.append_ne_nil_of_right_ne_nil _ ?_
  split
  · split
    · exact positional _ _
    · exact scientific _ _
  · split
    · exact positional _ _
    · exact scientific _ _

theorem write_ne_nil (value : Json) : value.write ≠ [] := by
  cases value with
  | null => decide
  | bool flag =>
      cases flag with
      | _ => decide
  | number value =>
      cases value with
      | int value => exact List.append_ne_nil_of_right_ne_nil _ Nat.toDigits_ne_nil
      | float value =>
          change writeFloat value ≠ []
          unfold writeFloat
          split
          · exact layout_ne_nil _
          · decide
  | string text => exact List.cons_ne_nil _ _
  | array items => exact List.cons_ne_nil _ _
  | object members => exact List.cons_ne_nil _ _

/-! ### Cutting texts -/

theorem Term.at_depth {text : List Char} (term : Term text) (depth : Nat) :
    run false ⟨.plain, depth⟩ text = some ⟨.plain, depth⟩ := by
  induction depth with
  | zero => exact term
  | succ depth ih => exact run_deeper ih

theorem not_term_of_stop {text rest : List Char} {stop : Char} (term : Term text)
    (stops : markOf stop = .comma ∨ markOf stop = .closing) : ¬Term (text ++ stop :: rest) := by
  intro longer
  have refused : step false {} stop = none := by
    unfold step
    rcases stops with comma | closing
    · rw [comma]
      rfl
    · rw [closing]
      rfl
  unfold Term at term longer
  rw [run_append, term, Option.bind_some, run_cons, refused] at longer
  cases longer

theorem Term.cut {first second firstRest secondRest : List Char} {firstStop secondStop : Char}
    (one : Term first) (two : Term second)
    (ends : markOf firstStop = .comma ∨ markOf firstStop = .closing)
    (stops : markOf secondStop = .comma ∨ markOf secondStop = .closing)
    (same : first ++ firstStop :: firstRest = second ++ secondStop :: secondRest) :
    first = second ∧ firstStop :: firstRest = secondStop :: secondRest := by
  rcases List.append_eq_append_iff.mp same with ⟨more, longer, rest⟩ | ⟨more, longer, rest⟩
  · cases more with
    | nil => exact ⟨(longer.trans (List.append_nil _)).symm, rest⟩
    | cons char others =>
        obtain ⟨head, _⟩ := List.cons.inj rest
        rw [longer, ← head] at two
        exact absurd two (not_term_of_stop one ends)
  · cases more with
    | nil => exact ⟨longer.trans (List.append_nil _), rest.symm⟩
    | cons char others =>
        obtain ⟨head, _⟩ := List.cons.inj rest
        rw [longer, ← head] at one
        exact absurd one (not_term_of_stop two stops)

def behindItem : List Json → List Char
  | [] => [']']
  | rest => ',' :: writeItems rest

theorem writeItems_cons (item : Json) (rest : List Json) :
    writeItems (item :: rest) = item.write ++ behindItem rest := by
  cases rest with
  | nil => rfl
  | cons next others =>
      rw [writeItems, behindItem]
      · exact List.cons_ne_nil _ _
      · exact List.cons_ne_nil _ _

theorem behindItem_stops (rest : List Json) : ∃ stop tail, behindItem rest = stop :: tail ∧
    (markOf stop = .comma ∨ markOf stop = .closing) := by
  cases rest with
  | nil => exact ⟨']', [], rfl, .inr rfl⟩
  | cons next others => exact ⟨',', writeItems (next :: others), rfl, .inl rfl⟩

theorem map_write_of_writeItems : ∀ {first second : List Json},
    writeItems first = writeItems second → first.map write = second.map write
  | [], [], _ => rfl
  | [], item :: rest, same => by
      obtain ⟨stop, tail, behind, stops⟩ := behindItem_stops rest
      rw [writeItems_cons, behind] at same
      have empty := (Term.cut term_nil (term_write item) (.inr rfl) stops same).1
      exact absurd empty.symm (write_ne_nil item)
  | item :: rest, [], same => by
      obtain ⟨stop, tail, behind, stops⟩ := behindItem_stops rest
      rw [writeItems_cons, behind] at same
      have empty := (Term.cut (term_write item) term_nil stops (.inr rfl) same).1
      exact absurd empty (write_ne_nil item)
  | item :: rest, other :: others, same => by
      obtain ⟨stop, tail, behind, stops⟩ := behindItem_stops rest
      obtain ⟨ending, remains, beyond, ends⟩ := behindItem_stops others
      rw [writeItems_cons, writeItems_cons, behind, beyond] at same
      obtain ⟨own, further⟩ := Term.cut (term_write item) (term_write other) stops ends same
      rw [← behind, ← beyond] at further
      have tails : rest.map write = others.map write := by
        cases rest with
        | nil =>
            cases others with
            | nil => rfl
            | cons next more => cases further
        | cons last more =>
            cases others with
            | nil => cases further
            | cons next others => exact map_write_of_writeItems (List.cons.inj further).2
      rw [List.map_cons, List.map_cons, own, tails]

theorem writeItems_of_map_write {first : List Json} :
    ∀ {second : List Json}, first.map write = second.map write →
      writeItems first = writeItems second := by
  induction first with
  | nil =>
      intro second same
      rw [List.map_eq_nil_iff.mp same.symm]
  | cons item rest ih =>
      intro second same
      cases second with
      | nil => cases same
      | cons other others =>
          obtain ⟨own, further⟩ := List.cons.inj same
          have tails : behindItem rest = behindItem others := by
            cases rest with
            | nil =>
                rw [List.map_eq_nil_iff.mp further.symm]
            | cons next more =>
                cases others with
                | nil => cases further
                | cons last less => exact congrArg (',' :: ·) (ih further)
          rw [writeItems_cons, writeItems_cons, own, tails]

/-- No array text ends in the text of another array. -/
theorem front_nil_of_arrays {first second front : List Char} (one : Listing first)
    (two : Listing second)
    (same : '[' :: (first ++ [']']) = front ++ '[' :: (second ++ [']'])) : front = [] := by
  cases front with
  | nil => rfl
  | cons char rest =>
      exfalso
      rw [List.cons_append] at same
      obtain ⟨rfl, inside⟩ := List.cons.inj same
      have split : first = rest ++ '[' :: second := by
        have ended : first ++ [']'] = (rest ++ '[' :: second) ++ [']'] := by
          rw [inside, List.append_assoc, List.cons_append]
        exact List.append_cancel_right ended
      have inner : Term ('[' :: (second ++ [']'])) := two.enclosed rfl rfl
      have outer : Term ('[' :: (first ++ [']'])) := one.enclosed rfl rfl
      -- Where the scan of the longer text stands when the shorter text begins.
      unfold Listing at one
      rw [split, run_append] at one
      obtain ⟨middle, reached, _⟩ := Option.bind_eq_some_iff.mp one
      have down : run false (deeper {}) rest = some middle.deeper := run_deeper reached
      have onward : run false middle.deeper ('[' :: (second ++ [']'])) = some {} := by
        have opens : step false {} '[' = some (deeper {}) := rfl
        unfold Term at outer
        rw [inside, run_cons, opens, Option.bind_some, run_append, down, Option.bind_some] at outer
        exact outer
      obtain ⟨mode, depth⟩ := middle
      cases mode with
      | plain =>
          have level := onward.symm.trans (inner.at_depth (depth + 1))
          cases level
      | quoted =>
          have opposed := run_opposed (.inl ⟨rfl, rfl⟩) inner onward
          rcases opposed with ⟨_, wrong⟩ | ⟨_, wrong⟩
          · cases wrong
          · cases wrong
      | escaped => cases onward

end BoundQuery.Json
