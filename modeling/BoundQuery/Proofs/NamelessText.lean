import BoundQuery.Proofs.CleanText
import BoundQuery.Proofs.NamedTables

/-!
Which names are found in a text, and in which texts there are none. A text is passed over where no
keyword stands in front of a blank. This stays so where two texts are joined, unless the keyword
lies across the seam, and what is found in a text that is set off from what follows does not depend
on what this is.
-/

set_option autoImplicit false

namespace BoundQuery

/-! ### Texts without names -/

def isKeyLetter (char : Char) : Bool :=
  tableKeywords.flatten.contains char.toLower

/-- The only blanks are spaces, and no keyword stands in front of one; nor does the text end with a
keyword. -/
def Nameless (chars : List Char) : Prop :=
  (∀ char ∈ chars, Text.isAsciiBlank char = true → char = ' ') ∧
    ∀ keyword ∈ tableKeywords, ¬keyword ++ [' '] <:+: chars.map Char.toLower ++ [' ']

/-- The text may stand between any two. -/
def Parting (chars : List Char) : Prop :=
  Nameless chars ∧ chars ≠ [] ∧ chars.head?.all (fun char => !isKeyLetter char) = true ∧
    chars.getLast?.all (fun char => !isKeyLetter char) = true

-- The characters of the text are tried, not all there are.
instance (chars : List Char) : Decidable (Nameless chars) :=
  decidable_of_iff
    (chars.all (fun char => decide (Text.isAsciiBlank char = true → char = ' ')) = true ∧
      ∀ keyword ∈ tableKeywords, ¬keyword ++ [' '] <:+: chars.map Char.toLower ++ [' '])
    (by simp only [Nameless, List.all_eq_true, decide_eq_true_eq])

instance (chars : List Char) : Decidable (Parting chars) :=
  inferInstanceAs (Decidable (_ ∧ _))

variable {left right chars : List Char}

theorem isKeyLetter_of_mem {keyword : List Char} (listed : keyword ∈ tableKeywords) {char : Char}
    (member : char.toLower ∈ keyword) : isKeyLetter char = true :=
  List.contains_iff_mem.mpr (List.mem_flatten_of_mem listed member)

theorem space_not_mem_of_keyword {keyword : List Char} (listed : keyword ∈ tableKeywords) :
    ' ' ∉ keyword := by
  have none : ∀ other ∈ tableKeywords, ' ' ∉ other := by decide
  exact none keyword listed

theorem infix_append_cases {Item : Type} {found left right : List Item} :
    found <:+: left ++ right → found <:+: left ∨ found <:+: right ∨
      ∃ first second, found = first ++ second ∧ first ≠ [] ∧ second ≠ [] ∧
        first <:+ left ∧ second <+: right := by
  induction left with
  | nil => exact fun within => .inr (.inl within)
  | cons item rest ih =>
      intro within
      rcases List.infix_cons_iff.mp within with ⟨behind, start⟩ | further
      · have whole : found ++ behind = (item :: rest) ++ right := start
        rcases List.append_eq_append_iff.mp whole with ⟨more, whole, _⟩ | ⟨more, whole, tail⟩
        · exact .inl ⟨[], more, by rw [whole]; rfl⟩
        · cases more with
          | nil =>
              refine .inl ⟨[], [], ?_⟩
              rw [whole, List.append_nil, List.append_nil]
              rfl
          | cons next others =>
              exact .inr (.inr ⟨item :: rest, next :: others, whole, List.cons_ne_nil _ _,
                List.cons_ne_nil _ _, List.suffix_rfl, behind, tail.symm⟩)
      · rcases ih further with inside | other | ⟨first, second, same, some, more, ending, start⟩
        · exact .inl (List.infix_cons inside)
        · exact .inr (.inl other)
        · exact .inr (.inr ⟨first, second, same, some, more,
            ending.trans (List.suffix_cons item rest), start⟩)

theorem not_neutral_of_suffix {keyword letters : List Char} (listed : keyword ∈ tableKeywords)
    (filled : letters ≠ []) (within : ∀ letter ∈ letters, letter ∈ keyword)
    (ends : letters <:+ chars.map Char.toLower) :
    ¬chars.getLast?.all (fun char => !isKeyLetter char) = true := by
  intro neutral
  obtain ⟨front, whole⟩ := ends
  have final : (chars.map Char.toLower).getLast? = some (letters.getLast filled) := by
    rw [← whole, List.getLast?_append, List.getLast?_eq_some_getLast filled]
    rfl
  rw [List.getLast?_map] at final
  obtain ⟨char, held, lower⟩ := Option.map_eq_some_iff.mp final
  have spelled : isKeyLetter char = true :=
    isKeyLetter_of_mem listed (lower ▸ within _ (List.getLast_mem filled))
  rw [held, Option.all_some, spelled] at neutral
  cases neutral

namespace Nameless

theorem nothing : Nameless [] := by
  decide

theorem append (first : Nameless left) (second : Nameless right)
    (seam : left.getLast?.all (fun char => !isKeyLetter char) = true ∨
      right.head?.all (fun char => !isKeyLetter char) = true) : Nameless (left ++ right) := by
  refine ⟨List.forall_mem_append.mpr ⟨first.1, second.1⟩, ?_⟩
  intro keyword listed found
  rw [List.map_append, List.append_assoc] at found
  rcases infix_append_cases found with inside | inside |
    ⟨before, behind, split, filled, other, ⟨front, early⟩, ⟨rest, late⟩⟩
  · exact first.2 keyword listed (inside.trans (List.prefix_append _ _).isInfix)
  · exact second.2 keyword listed inside
  · have within : before ≠ keyword := by
      rintro rfl
      exact first.2 before listed ⟨front, [], by rw [← early]; simp⟩
    obtain ⟨letter, more, whole, last⟩ : ∃ letter more, keyword = before ++ letter :: more ∧
        behind = letter :: more ++ [' '] := by
      rcases List.append_eq_append_iff.mp split with ⟨gap, longer, short⟩ | ⟨gap, whole, last⟩
      · cases gap with
        | nil => exact absurd (longer.trans (List.append_nil keyword)) within
        | cons char gap =>
            exact absurd (List.append_eq_nil_iff.mp (List.cons.inj short).2.symm).2 other
      · cases gap with
        | nil => exact absurd (whole.trans (List.append_nil before)).symm within
        | cons letter more => exact ⟨letter, more, whole, last⟩
    rcases seam with neutral | neutral
    · refine not_neutral_of_suffix listed filled ?_ ⟨front, early⟩ neutral
      rw [whole]
      exact fun char member => List.mem_append_left _ member
    · have inside : letter ∈ keyword := by
        rw [whole]
        exact List.mem_append_right _ List.mem_cons_self
      rw [last] at late
      cases right with
      | nil =>
          have same : letter = ' ' := (List.cons.inj late).1
          exact space_not_mem_of_keyword listed (same ▸ inside)
      | cons char others =>
          have same : letter = char.toLower := (List.cons.inj late).1
          have spelled : isKeyLetter char = true := isKeyLetter_of_mem listed (same ▸ inside)
          rw [List.head?_cons, Option.all_some, spelled] at neutral
          cases neutral

theorem then_parting (first : Nameless left) (second : Parting right) :
    Nameless (left ++ right) :=
  first.append second.1 (.inr second.2.2.1)

theorem join {middle : List Char} (first : Nameless left) (between : Parting middle)
    (second : Nameless right) : Nameless (left ++ (middle ++ right)) := by
  rw [← List.append_assoc]
  refine (first.then_parting between).append second (.inl ?_)
  rw [List.getLast?_append_of_ne_nil _ between.2.1]
  exact between.2.2.2

end Nameless

namespace Parting

theorem nameless (own : Parting chars) : Nameless chars :=
  own.1

theorem then_nameless (first : Parting left) (second : Nameless right) :
    Nameless (left ++ right) :=
  first.1.append second (.inl first.2.2.2)

theorem of_nameless (first : Nameless left) (filled : left ≠ [])
    (opens : left.head?.all (fun char => !isKeyLetter char) = true) (second : Parting right) :
    Parting (left ++ right) := by
  refine ⟨first.then_parting second, List.append_ne_nil_of_left_ne_nil filled right, ?_, ?_⟩
  · rw [List.head?_append_of_ne_nil _ filled]
    exact opens
  · rw [List.getLast?_append_of_ne_nil _ second.2.1]
    exact second.2.2.2

theorem append (first : Parting left) (second : Parting right) : Parting (left ++ right) :=
  of_nameless first.1 first.2.1 first.2.2.1 second

end Parting

section Strings

variable {before behind : String}

theorem Nameless.closed (first : Nameless before.toList) (second : Parting behind.toList) :
    Nameless (before ++ behind).toList := by
  rw [String.toList_append]
  exact first.then_parting second

theorem Parting.followed (first : Parting before.toList) (second : Nameless behind.toList) :
    Nameless (before ++ behind).toList := by
  rw [String.toList_append]
  exact first.then_nameless second

theorem Parting.closed (first : Parting before.toList) (second : Parting behind.toList) :
    Parting (before ++ behind).toList := by
  rw [String.toList_append]
  exact first.append second

end Strings

theorem code_of_isKeyLetter {char : Char} (letter : isKeyLetter char = true) :
    97 ≤ char.toLower.toNat := by
  have codes : tableKeywords.flatten.all (fun letter => decide (97 ≤ letter.toNat)) = true := by
    decide
  exact of_decide_eq_true (List.all_eq_true.mp codes _ (List.contains_iff_mem.mp letter))

theorem eq_space_of_toLower {char : Char} (lower : char.toLower = ' ') : char = ' ' := by
  have code := toNat_toLower char
  rw [lower] at code
  change 32 = _ at code
  apply Char.toNat_inj.mp
  change char.toNat = 32
  split at code
  · omega
  · exact code.symm

theorem nameless_of_visible (visible : ∀ char ∈ chars, Text.isAsciiBlank char = false)
    (ends : chars.getLast?.all (fun char => !isKeyLetter char) = true) : Nameless chars := by
  refine ⟨fun char member blank => ?_, fun keyword listed found => ?_⟩
  · rw [visible char member] at blank
    cases blank
  · rcases infix_append_cases found with inside | inside |
      ⟨before, behind, split, filled, other, early, ⟨rest, late⟩⟩
    · have space : ' ' ∈ chars.map Char.toLower :=
        inside.subset (List.mem_append_right _ List.mem_cons_self)
      obtain ⟨char, member, lower⟩ := List.mem_map.mp space
      have blank := visible char member
      rw [eq_space_of_toLower lower] at blank
      cases blank
    · have short : keyword = [] := by
        have length := inside.length_le
        rw [List.length_append, List.length_singleton] at length
        exact List.length_eq_zero_iff.mp (by omega)
      rw [short] at listed
      exact absurd listed (by decide)
    · cases behind with
      | nil => exact other rfl
      | cons letter more =>
          obtain ⟨rfl, none⟩ := List.cons.inj late
          obtain ⟨rfl, _⟩ := List.append_eq_nil_iff.mp none
          have whole : keyword = before := List.append_cancel_right split
          exact not_neutral_of_suffix listed filled (fun _ member => whole ▸ member) early ends

theorem parting_of_visible (visible : ∀ char ∈ chars, Text.isAsciiBlank char = false)
    (filled : chars ≠ []) (opens : chars.head?.all (fun char => !isKeyLetter char) = true)
    (ends : chars.getLast?.all (fun char => !isKeyLetter char) = true) : Parting chars :=
  ⟨nameless_of_visible visible ends, filled, opens, ends⟩

theorem visible_of_isNamePart {char : Char} (part : Text.isNamePart char = true) :
    Text.isAsciiBlank char = false := by
  have code := code_of_isNamePart part
  have space := ne_of_isNamePart part ' ' (by decide)
  simp only [Text.isAsciiBlank, Bool.or_eq_false_iff, Bool.and_eq_false_iff,
    decide_eq_false_iff_not, beq_eq_false_iff_ne]
  exact ⟨by omega, space⟩

theorem parting_number (number : Nat) : Parting (toString number).toList := by
  obtain ⟨first, rest, text, digits⟩ := digits_of_number number
  have neutral : ∀ char ∈ first :: rest, isKeyLetter char = false := by
    intro char member
    have code := code_of_isDigit (digits char member)
    refine eq_false_of_ne_true fun letter => ?_
    have small := code_of_isKeyLetter letter
    rw [toNat_toLower] at small
    split at small
    · omega
    · omega
  have visible : ∀ char ∈ first :: rest, Text.isAsciiBlank char = false :=
    fun char member => visible_of_isNamePart (isNamePart_of_isDigit (digits char member))
  rw [text]
  refine parting_of_visible visible (List.cons_ne_nil _ _) ?_ ?_
  · rw [List.head?_cons, Option.all_some, neutral first List.mem_cons_self]
    rfl
  · rw [List.getLast?_eq_some_getLast (List.cons_ne_nil first rest), Option.all_some,
      neutral _ (List.getLast_mem _)]
    rfl

/-! ### What is found -/

/-- The names that are found in a text, whatever it is that follows apart from it. -/
def Finds (chars : List Char) (names : List (List Char)) : Prop :=
  ∀ rest, Clear rest → scanTables 0 false (chars ++ rest) = names ++ scanTables 0 false rest

theorem tableAt?_of_neutral {char : Char} (neutral : isKeyLetter char = false)
    (rest : List Char) : tableAt? (char :: rest) = none := by
  cases found : tableAt? (char :: rest) with
  | none => rfl
  | some find =>
      obtain ⟨word, blanks, dotted, behind, split, keyword, _⟩ := tableAt?_split found
      cases word with
      | nil => exact absurd keyword (by decide)
      | cons letter more =>
          obtain ⟨rfl, _⟩ := List.cons.inj split
          have letter := isKeyLetter_of_mem keyword List.mem_cons_self
          rw [neutral] at letter
          cases letter

theorem scanTables_clear {rest : List Char} (clear : Clear rest) (inWord : Bool) :
    scanTables 0 inWord rest = scanTables 0 false rest := by
  cases rest with
  | nil => rfl
  | cons char more =>
      have neutral : isKeyLetter char = false := by
        rcases clear char rfl with rfl | rfl
        · decide
        · decide
      rw [scanTables, scanTables, tableAt?_of_neutral neutral, ite_self, ite_self]

/-- No find starts in a nameless text, not even one that would end behind it. -/
theorem Nameless.not_found {rest : List Char} (nameless : Nameless chars) (clear : Clear rest) :
    tableAt? (chars ++ rest) = none := by
  cases found : tableAt? (chars ++ rest) with
  | none => rfl
  | some find =>
      exfalso
      obtain ⟨word, blanks, dotted, behind, split, keyword, ⟨blank, gap⟩, _⟩ :=
        tableAt?_split found
      obtain ⟨space, more, rfl⟩ := List.exists_cons_of_ne_nil gap
      have hidden := blank space List.mem_cons_self
      have neutral : ∀ char, rest.head? = some char → isKeyLetter char = false := by
        intro char head
        rcases clear char head with rfl | rfl
        · decide
        · decide
      have ended : rest.head? = some space → space = ' ' := by
        intro head
        rcases clear space head with same | rfl
        · exact same
        · exact absurd hidden (by decide)
      have whole : chars ++ rest = word ++ (space :: (more ++ dotted ++ behind)) := by
        rw [split]
        simp
      rcases List.append_eq_append_iff.mp whole with ⟨letters, long, tail⟩ | ⟨letters, inside, tail⟩
      · cases letters with
        | nil =>
            rw [List.append_nil] at long
            refine nameless.2 _ keyword ⟨[], [], ?_⟩
            rw [long, List.nil_append, List.append_nil]
        | cons letter others =>
            have listed : letter ∈ word := by
              rw [long]
              exact List.mem_append_right _ List.mem_cons_self
            have spelled := isKeyLetter_of_mem keyword (List.mem_map_of_mem listed)
            rw [neutral letter (by rw [tail]; rfl)] at spelled
            cases spelled
      · cases letters with
        | nil =>
            rw [List.append_nil] at inside
            refine nameless.2 _ keyword ⟨[], [], ?_⟩
            rw [inside, List.nil_append, List.append_nil]
        | cons letter others =>
            obtain ⟨rfl, _⟩ := List.cons.inj tail
            have same : space = ' ' := by
              refine nameless.1 space ?_ hidden
              rw [inside]
              exact List.mem_append_right _ List.mem_cons_self
            refine nameless.2 _ keyword ⟨[], others.map Char.toLower ++ [' '], ?_⟩
            rw [inside, same]
            simp

theorem scanTables_nameless {rest : List Char} (clear : Clear rest) : ∀ inWord : Bool,
    Nameless chars → scanTables 0 inWord (chars ++ rest) = scanTables 0 false rest := by
  induction chars with
  | nil => exact fun inWord _ => scanTables_clear clear inWord
  | cons char more ih =>
      intro inWord nameless
      have behind : Nameless more := by
        refine ⟨fun other member => nameless.1 other (List.mem_cons_of_mem _ member), ?_⟩
        exact fun keyword listed found => nameless.2 keyword listed (List.infix_cons found)
      have none := nameless.not_found clear
      rw [List.cons_append] at none ⊢
      rw [scanTables, none, ite_self]
      exact ih _ behind

theorem Nameless.finds (nameless : Nameless chars) : Finds chars [] :=
  fun _ clear => scanTables_nameless clear false nameless

namespace Finds

variable {names others : List (List Char)}

theorem append (first : Finds left names) (second : Finds right others) (clear : Clear right) :
    Finds (left ++ right) (names ++ others) := by
  intro rest apart
  rw [List.append_assoc, first _ (clear.append apart), second rest apart, List.append_assoc]

theorem space (own : Finds chars names) : Finds (' ' :: chars) names := by
  intro rest clear
  rw [List.cons_append, scanTables_space, own rest clear]

theorem enclosed (own : Finds chars names) : Finds ('(' :: chars ++ [')']) names := by
  intro rest clear
  have closing : Clear (')' :: rest) := by
    intro char head
    cases head
    exact .inr rfl
  have behind : Finds [')'] [] := Nameless.finds (by decide)
  have closed := behind rest clear
  rw [List.singleton_append, List.nil_append] at closed
  rw [List.append_assoc, List.singleton_append, List.cons_append, scanTables,
    tableAt?_of_neutral (by decide), ite_self]
  exact (own _ closing).trans (congrArg (names ++ ·) closed)

theorem whole (own : Finds chars names) : scanTables 0 false chars = names := by
  have all := own [] Clear.nil
  rw [List.append_nil] at all
  exact all.trans (List.append_nil names)

theorem unique (own : Finds chars names) (other : Finds chars others) : names = others :=
  own.whole.symm.trans other.whole

end Finds

theorem scanTables_passing (passed rest : List Char) : ∀ inWord : Bool,
    ∃ behind, scanTables passed.length inWord (passed ++ rest) = scanTables 0 behind rest := by
  induction passed with
  | nil => exact fun inWord => ⟨inWord, rfl⟩
  | cons char more ih => exact fun _ => ih (Text.isNamePart char)

theorem finds_written {marks : Option (Char × Char)} (proper : ProperMarks marks)
    {word : List Char} (keyword : word ∈ readWords) (part : List Char)
    (others : List (List Char))
    (plain : ∀ other ∈ part :: others, Identifier.isPlainPart other = true) :
    Finds (word ++ ' ' :: writtenName marks (part :: others)) [others.getLastD part] := by
  intro rest clear
  let name := writtenName marks (part :: others)
  have found := tableAt?_written proper keyword part others plain clear.nameEnds clear.not_point
  have last := plain _ List.getLastD_mem_cons
  obtain ⟨char, tail, begins, four⟩ : ∃ char tail, word = char :: tail ∧ tail.length = 3 := by
    simp only [readWords, List.mem_cons, List.not_mem_nil, or_false] at keyword
    rcases keyword with rfl | rfl
    · exact ⟨_, _, rfl, rfl⟩
    · exact ⟨_, _, rfl, rfl⟩
  rw [begins, List.cons_append] at found
  rw [begins, List.append_assoc, List.cons_append, List.cons_append, scanTables]
  simp only [Bool.false_eq_true, if_false, found, trimMatching_around proper last]
  obtain ⟨behind, passed⟩ := scanTables_passing (tail ++ ' ' :: name) rest (Text.isNamePart char)
  have length : 5 + name.length - 1 = (tail ++ ' ' :: name).length := by
    rw [List.length_append, List.length_cons, four]
    omega
  have text : tail ++ ' ' :: (name ++ rest) = tail ++ ' ' :: name ++ rest := by simp
  rw [length, text, passed, scanTables_clear clear]
  rfl

end BoundQuery
