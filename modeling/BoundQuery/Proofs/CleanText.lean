import BoundQuery.Proofs.Draft
import BoundQuery.Proofs.Numbering
import BoundQuery.Proofs.Phrases

/-!
Texts that neither end a statement nor hide a part of it. Two of them may be joined wherever the
seam has a neutral character on one of its sides, and all that a dialect writes around the words of
a caller is of this kind.
-/

set_option autoImplicit false

namespace BoundQuery

/-- Nothing in the text ends a statement or starts a comment. -/
def Clean (chars : List Char) : Prop :=
  Identifier.hasForbidden chars = false

def isNeutral (char : Char) : Bool :=
  !(['-', '/', '*'].contains char)

def Opens (chars : List Char) : Prop :=
  Clean chars ∧ chars.head?.all isNeutral = true

def Ends (chars : List Char) : Prop :=
  Clean chars ∧ chars.getLast?.all isNeutral = true

/-- The text may stand between any two. -/
def Sealed (chars : List Char) : Prop :=
  chars ≠ [] ∧ Opens chars ∧ Ends chars

instance (chars : List Char) : Decidable (Clean chars) :=
  inferInstanceAs (Decidable (_ = false))

instance (chars : List Char) : Decidable (Opens chars) :=
  inferInstanceAs (Decidable (_ ∧ _))

instance (chars : List Char) : Decidable (Ends chars) :=
  inferInstanceAs (Decidable (_ ∧ _))

instance (chars : List Char) : Decidable (Sealed chars) :=
  inferInstanceAs (Decidable (_ ∧ _))

variable {left right chars : List Char}

theorem clean_iff :
    Clean chars ↔ ∀ mark ∈ Identifier.forbiddenSequences, ¬mark <:+: chars := by
  unfold Clean Identifier.hasForbidden
  rw [List.any_eq_false]
  simp only [Text.occursIn_iff]

/-! ### Seams -/

theorem pair_of_append {first second : Char} (found : [first, second] <:+: left ++ right) :
    [first, second] <:+: left ∨ [first, second] <:+: right ∨
      (left.getLast? = some first ∧ right.head? = some second) := by
  induction left with
  | nil => exact .inr (.inl found)
  | cons char rest ih =>
      rcases List.infix_cons_iff.mp found with start | within
      · obtain ⟨rfl, further⟩ := List.cons_prefix_cons.mp start
        cases rest with
        | nil =>
            obtain ⟨behind, same⟩ := further
            exact .inr (.inr ⟨rfl, congrArg List.head? same.symm⟩)
        | cons next more =>
            obtain ⟨rfl, _⟩ := List.cons_prefix_cons.mp further
            exact .inl ⟨[], more, rfl⟩
      · rcases ih within with inside | behind | ⟨last, next⟩
        · exact .inl (List.infix_cons inside)
        · exact .inr (.inl behind)
        · refine .inr (.inr ⟨?_, next⟩)
          rw [List.getLast?_cons, last]
          rfl

/-- A forbidden sequence is a single character or a pair without a neutral one. -/
theorem forbidden_cases {mark : List Char} (listed : mark ∈ Identifier.forbiddenSequences) :
    (∃ char, mark = [char]) ∨ ∃ first second, mark = [first, second] ∧
      isNeutral first = false ∧ isNeutral second = false := by
  simp only [Identifier.forbiddenSequences, List.mem_cons, List.not_mem_nil, or_false] at listed
  rcases listed with rfl | rfl | rfl | rfl | rfl
  · exact .inl ⟨_, rfl⟩
  · exact .inr ⟨_, _, rfl, by decide, by decide⟩
  · exact .inr ⟨_, _, rfl, by decide, by decide⟩
  · exact .inr ⟨_, _, rfl, by decide, by decide⟩
  · exact .inl ⟨_, rfl⟩

theorem Clean.append (first : Clean left) (second : Clean right)
    (seam : left.getLast?.all isNeutral = true ∨ right.head?.all isNeutral = true) :
    Clean (left ++ right) := by
  rw [clean_iff] at first second ⊢
  intro mark listed found
  rcases forbidden_cases listed with ⟨char, rfl⟩ | ⟨before, behind, rfl, sharp, other⟩
  · have either : char ∈ left ∨ char ∈ right :=
      List.mem_append.mp (found.subset List.mem_cons_self)
    rcases either with inside | inside
    · exact first _ listed ((List.singleton_infix_iff _ _).mpr inside)
    · exact second _ listed ((List.singleton_infix_iff _ _).mpr inside)
  · rcases pair_of_append found with inside | inside | ⟨last, next⟩
    · exact first _ listed inside
    · exact second _ listed inside
    · rcases seam with neutral | neutral
      · rw [last, Option.all_some, sharp] at neutral
        cases neutral
      · rw [next, Option.all_some, other] at neutral
        cases neutral

theorem Clean.of_within (clean : Clean right) (inside : left <:+: right) : Clean left := by
  rw [clean_iff] at clean ⊢
  exact fun mark listed found => clean mark listed (found.trans inside)

theorem Clean.then_opens (first : Clean left) (second : Opens right) : Clean (left ++ right) :=
  first.append second.1 (.inr second.2)

theorem Ends.append (first : Ends left) (second : Clean right) : Clean (left ++ right) :=
  first.1.append second (.inl first.2)

theorem Opens.append (first : Opens left) (second : Opens right) : Opens (left ++ right) := by
  refine ⟨first.1.then_opens second, ?_⟩
  cases left with
  | nil => exact second.2
  | cons char rest => exact first.2

theorem Sealed.append (first : Sealed left) (second : Clean right) : Opens (left ++ right) := by
  refine ⟨first.2.2.append second, ?_⟩
  cases left with
  | nil => exact absurd rfl first.1
  | cons char rest => exact first.2.1.2

theorem Clean.then_sealed (first : Clean left) (second : Sealed right) : Ends (left ++ right) := by
  refine ⟨first.then_opens second.2.1, ?_⟩
  have last : (left ++ right).getLast? = right.getLast? := by
    rw [List.getLast?_append, List.getLast?_eq_some_getLast second.1]
    rfl
  rw [last]
  exact second.2.2.2

theorem Sealed.clean (own : Sealed chars) : Clean chars :=
  own.2.1.1

theorem Sealed.concat (first : Sealed left) (second : Sealed right) : Sealed (left ++ right) :=
  ⟨List.append_ne_nil_of_left_ne_nil first.1 right, first.append second.clean,
    first.clean.then_sealed second⟩

theorem clean_nil : Clean [] :=
  rfl

theorem opens_nil : Opens [] :=
  ⟨rfl, rfl⟩

section Strings

variable {before behind : String}

theorem Clean.followed (first : Clean before.toList) (second : Opens behind.toList) :
    Clean (before ++ behind).toList := by
  rw [String.toList_append]
  exact first.then_opens second

theorem Clean.closed (first : Clean before.toList) (second : Sealed behind.toList) :
    Ends (before ++ behind).toList := by
  rw [String.toList_append]
  exact first.then_sealed second

theorem Ends.followed (first : Ends before.toList) (second : Clean behind.toList) :
    Clean (before ++ behind).toList := by
  rw [String.toList_append]
  exact first.append second

theorem Opens.followed (first : Opens before.toList) (second : Opens behind.toList) :
    Opens (before ++ behind).toList := by
  rw [String.toList_append]
  exact first.append second

theorem Sealed.followed (first : Sealed before.toList) (second : Clean behind.toList) :
    Opens (before ++ behind).toList := by
  rw [String.toList_append]
  exact first.append second

theorem Sealed.closed (first : Sealed before.toList) (second : Sealed behind.toList) :
    Sealed (before ++ behind).toList := by
  rw [String.toList_append]
  exact first.concat second

end Strings

def isHarmless (char : Char) : Bool :=
  isNeutral char && char != ';' && char != Char.ofNat 0

theorem clean_of_harmless (harmless : ∀ char ∈ chars, isHarmless char = true) : Clean chars := by
  rw [clean_iff]
  intro mark listed found
  have inside : ∀ char ∈ mark, isHarmless char = true :=
    fun char member => harmless char (found.subset member)
  have refused : ∀ mark ∈ Identifier.forbiddenSequences, (!mark.all isHarmless) = true :=
    List.all_eq_true.mp (by decide)
  have own := refused mark listed
  rw [List.all_eq_true.mpr inside] at own
  cases own

theorem sealed_of_harmless {char : Char} {rest : List Char}
    (harmless : ∀ other ∈ char :: rest, isHarmless other = true) : Sealed (char :: rest) := by
  have neutral : ∀ other ∈ char :: rest, isNeutral other = true := by
    intro other member
    have own := harmless other member
    unfold isHarmless at own
    simp only [Bool.and_eq_true] at own
    exact own.1.1
  have clean := clean_of_harmless harmless
  refine ⟨List.cons_ne_nil char rest, ⟨clean, neutral char List.mem_cons_self⟩, clean, ?_⟩
  rw [List.getLast?_eq_some_getLast (List.cons_ne_nil char rest), Option.all_some]
  exact neutral _ (List.getLast_mem _)

theorem harmless_of_isNamePart {char : Char} (part : Text.isNamePart char = true) :
    isHarmless char = true := by
  have others : ∀ mark ∈ ['-', '/', '*', ';', Char.ofNat 0], (!Text.isNamePart mark) = true :=
    List.all_eq_true.mp (by decide)
  have apart : ∀ mark ∈ ['-', '/', '*', ';', Char.ofNat 0], char ≠ mark := by
    intro mark listed
    exact ne_of_isNamePart part mark (Bool.not_eq_true' _ ▸ others mark listed)
  simp only [List.forall_mem_cons] at apart
  obtain ⟨dash, slash, star, semicolon, null, _⟩ := apart
  simp [isHarmless, isNeutral, dash, slash, star, semicolon, null]

theorem sealed_number (number : Nat) : Sealed (toString number).toList := by
  obtain ⟨first, rest, text, digits⟩ := digits_of_number number
  rw [text]
  exact sealed_of_harmless fun char member =>
    harmless_of_isNamePart (isNamePart_of_isDigit (digits char member))

theorem trimChars_within (chars : List Char) : Text.trimChars chars <:+: chars := by
  have front : Text.trimStartChars chars <:+ chars := List.dropWhile_suffix _
  have back : Text.trimEndChars (Text.trimStartChars chars) <+: Text.trimStartChars chars := by
    unfold Text.trimEndChars
    rw [← List.reverse_suffix, List.reverse_reverse]
    exact List.dropWhile_suffix _
  exact back.isInfix.trans front.isInfix

theorem intercalate_of_joined {test : List Char → Prop} {separator : List Char} (empty : test [])
    (joined : ∀ {left right : List Char}, test left → test right →
      test (left ++ (separator ++ right)))
    {texts : List (List Char)} (each : ∀ text ∈ texts, test text) :
    test (separator.intercalate texts) := by
  induction texts with
  | nil => exact empty
  | cons text rest ih =>
      obtain ⟨own, others⟩ := List.forall_mem_cons.mp each
      cases rest with
      | nil =>
          rw [List.intercalate_singleton]
          exact own
      | cons next more =>
          rw [List.intercalate_cons_cons, List.append_assoc]
          exact joined own (ih others)

theorem commaSeparated_of_joined {test : List Char → Prop} (empty : test [])
    (joined : ∀ {left right : List Char}, test left → test right →
      test (left ++ (", ".toList ++ right)))
    {texts : List String} (each : ∀ text ∈ texts, test text.toList) :
    test (commaSeparated texts).toList := by
  unfold commaSeparated
  rw [String.toList_intercalate]
  refine intercalate_of_joined empty joined fun chars member => ?_
  obtain ⟨text, listed, rfl⟩ := List.mem_map.mp member
  exact each text listed

theorem Clean.join {middle : List Char} (first : Clean left) (between : Sealed middle)
    (second : Clean right) : Clean (left ++ (middle ++ right)) :=
  first.then_opens (between.append second)

theorem clean_commaSeparated {texts : List String} (each : ∀ text ∈ texts, Clean text.toList) :
    Clean (commaSeparated texts).toList :=
  commaSeparated_of_joined clean_nil (fun own other => own.join (by decide) other) each

/-! ### Raw conditions and pieces -/

theorem Clean.cons_of_head {char : Char} (clean : Clean (char :: left)) (other : Clean right)
    (same : right.head? = left.head?) : Clean (char :: right) := by
  rw [clean_iff] at clean other ⊢
  intro mark listed found
  rcases List.infix_cons_iff.mp found with start | within
  · rcases forbidden_cases listed with ⟨only, rfl⟩ | ⟨first, second, rfl, _, _⟩
    · obtain ⟨rfl, _⟩ := List.cons_prefix_cons.mp start
      exact clean _ listed ⟨[], left, rfl⟩
    · obtain ⟨rfl, behind, rfl⟩ := List.cons_prefix_cons.mp start
      cases left with
      | nil => cases same
      | cons next more =>
          cases same
          exact clean _ listed ⟨[], more, rfl⟩
  · exact other mark listed within

theorem clean_checked {kind text : String} (accepted : checkRaw kind text = .ok ()) :
    Clean text.toList := by
  unfold checkRaw at accepted
  split at accepted
  · cases accepted
  · rename_i allowed
    exact eq_false_of_ne_true allowed

namespace Part

def marked (tokens : List (Option Char)) : List Char :=
  tokens.map (fun token => token.getD '?')

private theorem sealed_mark : Sealed ['?'] := by
  decide

/-- A doubled mark becomes a single one, which opens no seam. -/
theorem clean_marked (clean : Clean chars) :
    Clean (marked (tokens chars)) ∧ (marked (tokens chars)).head? = chars.head? := by
  have behind {char : Char} {rest : List Char} (clean : Clean (char :: rest)) : Clean rest :=
    clean.of_within (List.suffix_cons char rest).isInfix
  fun_induction tokens chars with
  | case1 rest ih => exact ⟨(sealed_mark.append (ih (behind (behind clean))).1).1, rfl⟩
  | case2 rest _ ih => exact ⟨(sealed_mark.append (ih (behind clean)).1).1, rfl⟩
  | case3 char rest _ _ ih =>
      obtain ⟨further, next⟩ := ih (behind clean)
      exact ⟨clean.cons_of_head further next, rfl⟩
  | case4 => exact ⟨clean_nil, rfl⟩

end Part

namespace Piece

variable {profile : Profile} {first second third : List Char → Prop}
variable {before behind pieces : List Piece}

/-- The pieces become such a text, whatever number their first slot gets. -/
def Written (profile : Profile) (test : List Char → Prop) (pieces : List Piece) : Prop :=
  ∀ number, test (writeFrom profile.placeholder number pieces)

theorem Written.append
    (join : ∀ {left right : List Char}, first left → second right → third (left ++ right))
    (own : Written profile first before) (other : Written profile second behind) :
    Written profile third (before ++ behind) := by
  intro number
  rw [writeFrom_append]
  exact join (own _) (other _)

theorem written_nil (empty : first []) : Written profile first [] :=
  fun _ => empty

theorem written_sql {text : String} (own : first text.toList) :
    Written profile first [.sql text] := by
  intro number
  rw [writeFrom, writeFrom, List.append_nil]
  exact own

theorem written_slot (numbered : ∀ number, first (profile.placeholder number).toList)
    (value : Value) : Written profile first [.slot value] := by
  intro number
  rw [writeFrom, writeFrom, List.append_nil]
  exact numbered number

theorem written_joined (empty : first [])
    (joined : ∀ {left right : List Char}, first left → first right →
      first (left ++ (", ".toList ++ right)))
    {entries : List (List Piece)} (each : ∀ entry ∈ entries, Written profile first entry) :
    Written profile first ((entries.intersperse [.sql ", "]).flatten) := by
  refine separated_induction (written_nil empty) ?_ each
  intro left right own further number
  rw [writeFrom_append, writeFrom]
  exact joined (own _) (further _)

theorem written_separated {entries : List (List Piece)}
    (each : ∀ entry ∈ entries, Written profile Clean entry) :
    Written profile Clean ((entries.intersperse [.sql ", "]).flatten) :=
  written_joined clean_nil (fun own other => own.join (by decide) other) each

theorem written_listed (numbered : ∀ number, Sealed (profile.placeholder number).toList)
    (values : List Value) : Written profile Clean (listed values) := by
  rw [listed_eq_separated]
  refine written_separated fun entry member => ?_
  obtain ⟨value, _, rfl⟩ := List.mem_map.mp member
  exact written_slot (fun number => (numbered number).clean) value

theorem written_enclosed (own : Written profile Clean pieces) :
    Written profile Clean (enclosed pieces) := by
  have opened : Written profile Clean (.sql "(" :: pieces) :=
    Written.append (fun left right => (Sealed.append left right).1)
      (written_sql (by decide)) own
  exact Written.append Clean.then_opens opened (written_sql (by decide))

theorem written_gather (numbered : ∀ number, Sealed (profile.placeholder number).toList)
    (tokens : List (Option Char)) :
    ∀ (reversed : List Char) (values : List Value),
      Clean (reversed.reverse ++ Part.marked tokens) →
        (Part.gather reversed tokens).countP Part.isSlot ≤ values.length →
          Written profile Clean (fillSlots (Part.gather reversed tokens) values) := by
  have held {reversed : List Char} (rest : List Part) (values : List Value) :
      fillSlots (Part.pending reversed ++ rest) values =
        (if reversed = [] then [] else [.sql (String.ofList reversed.reverse)]) ++
          fillSlots rest values := by
    cases reversed with
    | nil => rfl
    | cons char others => rfl
  have letters {reversed : List Char} (clean : Clean reversed.reverse) :
      Written profile Clean
        (if reversed = [] then [] else [.sql (String.ofList reversed.reverse)]) := by
    split
    · exact written_nil clean_nil
    · refine written_sql ?_
      rw [String.toList_ofList]
      exact clean
  induction tokens with
  | nil =>
      intro reversed values clean _
      rw [Part.gather, ← List.append_nil (Part.pending reversed), held, fillSlots, List.append_nil]
      refine letters ?_
      rw [Part.marked, List.map_nil, List.append_nil] at clean
      exact clean
  | cons token rest ih =>
      intro reversed values clean given
      cases token with
      | some char =>
          refine ih (char :: reversed) values ?_ given
          rw [List.reverse_cons, List.append_assoc]
          exact clean
      | none =>
          have front : Clean reversed.reverse :=
            clean.of_within (List.prefix_append _ _).isInfix
          have back : Clean (Part.marked rest) :=
            clean.of_within ⟨reversed.reverse ++ ['?'], [], by simp [Part.marked]⟩
          rw [Part.gather, List.countP_append, List.countP_cons_of_pos rfl] at given
          cases values with
          | nil => simp at given
          | cons value others =>
              have further : (Part.gather [] rest).countP Part.isSlot ≤ others.length := by
                rw [List.length_cons] at given
                omega
              rw [Part.gather, held]
              refine Written.append Clean.then_opens (letters front) ?_
              exact Written.append Sealed.append (written_slot numbered value)
                (ih [] others back further)

theorem written_rawCondition (numbered : ∀ number, Sealed (profile.placeholder number).toList)
    {kind sql : String} {values : List Value}
    (made : rawCondition kind sql values = .ok pieces) : Written profile Clean pieces := by
  obtain ⟨checked, size, rfl⟩ := rawCondition_ok made
  have clean := clean_checked checked
  have tokens := (Part.clean_marked (clean.of_within (trimChars_within _))).1
  exact written_gather numbered _ [] values tokens size.le

end Piece

end BoundQuery
