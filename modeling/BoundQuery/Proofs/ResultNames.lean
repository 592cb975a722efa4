import BoundQuery.Proofs.Conjunction
import BoundQuery.Proofs.NamelessText
import BoundQuery.Proofs.Reading
import BoundQuery.Proofs.TidyFrame
import BoundQuery.Rehearsal

/-!
The name of an aliased column in the rows. A column is accepted with any white space around its word
`AS`; the name behind that word is the key of the result only where a plain space stands on either
side of it.
-/

set_option autoImplicit false

namespace BoundQuery

namespace Text

variable {mark : Char} (blank : isBlank mark = true) {word : List Char}

include blank in
theorem words_between (front rest : List Char) :
    words (front ++ mark :: rest) = words front ++ words rest := by
  unfold words
  rw [List.splitOnP_append_cons front rest blank, List.filter_append]

theorem words_whole (some : word ≠ []) (visible : ∀ char ∈ word, isBlank char = false) :
    words word = [word] := by
  have kept : (!word.isEmpty) = true := by
    rw [Bool.not_eq_true', List.isEmpty_eq_false_iff]
    exact some
  unfold words
  rw [List.splitOnP_eq_singleton visible, List.filter_cons_of_pos (by rw [kept]), List.filter_nil]

include blank in
theorem mem_words (some : word ≠ []) (visible : ∀ char ∈ word, isBlank char = false)
    {rest : List Char} (apart : ∀ char, rest.head? = Option.some char → isBlank char = true)
    (front : List Char) : word ∈ words (front ++ mark :: (word ++ rest)) := by
  rw [words_between blank]
  refine List.mem_append_right _ ?_
  cases rest with
  | nil =>
      rw [List.append_nil, words_whole some visible]
      exact List.mem_singleton_self word
  | cons char others =>
      rw [words_between (apart char rfl), words_whole some visible]
      exact List.mem_cons_self

end Text

namespace Text

theorem trimEndChars_behind {chars : List Char} (some : chars ≠ [])
    (visible : ∀ char ∈ chars, isBlank char = false) (front : List Char) :
    trimEndChars (front ++ chars) = front ++ chars := by
  obtain ⟨first, last, rfl⟩ := List.eq_nil_or_concat' chars |>.resolve_left some
  have stop : ¬isBlank last = true := by
    rw [visible last (List.mem_append_right _ (List.mem_singleton_self last))]
    exact Bool.false_ne_true
  unfold trimEndChars
  rw [← List.append_assoc, List.reverse_append, List.reverse_singleton, List.singleton_append,
    List.dropWhile_cons_of_neg stop, List.reverse_cons, List.reverse_reverse]

theorem trimChars_visible {chars : List Char} (visible : ∀ char ∈ chars, isBlank char = false) :
    trimChars chars = chars := by
  cases chars with
  | nil => rfl
  | cons first rest =>
      have stop : ¬isBlank first = true := by
        rw [visible first List.mem_cons_self]
        exact Bool.false_ne_true
      unfold trimChars trimStartChars
      rw [List.dropWhile_cons_of_neg stop]
      exact trimEndChars_behind (List.cons_ne_nil first rest) visible []

variable {test : Char → Bool} {char : Char} {chars : List Char}

theorem mem_dropWhile (refused : test char = false) (member : char ∈ chars) :
    char ∈ chars.dropWhile test := by
  rw [← List.takeWhile_append_dropWhile (p := test) (l := chars), List.mem_append] at member
  refine member.resolve_left fun passed => ?_
  rw [List.mem_takeWhile_imp passed] at refused
  cases refused

theorem mem_trimMatching (refused : test char = false) (member : char ∈ chars) :
    char ∈ trimMatching test chars := by
  unfold trimMatching
  rw [List.mem_reverse]
  exact mem_dropWhile refused (List.mem_reverse.mpr (mem_dropWhile refused member))

theorem afterLast_append {separator : Char} {back : List Char} (absent : separator ∉ back)
    (front : List Char) :
    afterLast separator (front ++ back) = afterLast separator front ++ back := by
  have passed : ∀ char ∈ back.reverse, (char != separator) = true := by
    intro char member
    rw [bne_iff_ne]
    rintro rfl
    exact absent (List.mem_reverse.mp member)
  unfold afterLast
  rw [List.reverse_append, List.takeWhile_append_of_pos passed, List.reverse_append,
    List.reverse_reverse]

end Text

/-! ### The word `AS` between plain spaces -/

theorem Identifier.isAsWord_spelled {word : List Char} (spelled : isAsWord word = true) :
    ∃ first second, word = [first, second] ∧ Text.isBlank first = false ∧
      Text.isBlank second = false := by
  have letters : word.map Char.toLower = ['a', 's'] := beq_iff_eq.mp spelled
  have visible {char letter : Char} (same : char.toLower = letter)
      (listed : letter ∈ ['a', 's']) : Text.isBlank char = false := by
    have code := congrArg Char.toNat same
    rw [toNat_toLower] at code
    have range : letter.toNat = 97 ∨ letter.toNat = 115 := by
      simp only [List.mem_cons, List.not_mem_nil, or_false] at listed
      rcases listed with rfl | rfl
      · exact .inl rfl
      · exact .inr rfl
    cases blank : Text.isBlank char with
    | false => rfl
    | true =>
        simp only [Text.isBlank, Bool.or_eq_true, Bool.and_eq_true, decide_eq_true_eq,
          beq_iff_eq] at blank
        split at code
        · omega
        · omega
  obtain ⟨first, behind, rfl, one, letters⟩ := List.map_eq_cons_iff.mp letters
  obtain ⟨second, none, rfl, two, letters⟩ := List.map_eq_cons_iff.mp letters
  rw [List.map_eq_nil_iff.mp letters]
  exact ⟨first, second, rfl, visible one (by decide), visible two (by decide)⟩

theorem Identifier.visible_of_isAsWord {word : List Char} (spelled : isAsWord word = true) :
    word ≠ [] ∧ ∀ char ∈ word, Text.isBlank char = false := by
  obtain ⟨first, second, rfl, one, two⟩ := isAsWord_spelled spelled
  refine ⟨List.cons_ne_nil _ _, ?_⟩
  rintro char member
  simp only [List.mem_cons, List.not_mem_nil, or_false] at member
  rcases member with rfl | rfl
  · exact one
  · exact two

theorem nil_of_blanks {blanks behind word rest : List Char}
    (blank : ∀ char ∈ blanks, Text.isBlank char = true) (some : word ≠ [])
    (visible : ∀ char ∈ word, Text.isBlank char = false)
    (same : blanks ++ behind = word ++ rest) : blanks = [] := by
  cases blanks with
  | nil => rfl
  | cons char others =>
      obtain ⟨first, tail, rfl⟩ := List.exists_cons_of_ne_nil some
      have own := blank char List.mem_cons_self
      rw [(List.cons.inj same).1, visible first List.mem_cons_self] at own
      cases own

/-- The text starts with the word `AS` between plain spaces. -/
def StartsAs (chars : List Char) : Prop :=
  Text.startsIgnoringCase [' ', 'a', 's', ' '] chars = true

theorem startsAs_iff {chars : List Char} :
    StartsAs chars ↔
      ∃ word rest, chars = ' ' :: (word ++ ' ' :: rest) ∧ Identifier.isAsWord word = true := by
  constructor
  · intro starts
    have letters : (chars.take 4).map Char.toLower = [' ', 'a', 's', ' '] :=
      (beq_iff_eq.mp starts).symm
    obtain ⟨first, _, taken, one, letters⟩ := List.map_eq_cons_iff.mp letters
    obtain ⟨second, _, rfl, two, letters⟩ := List.map_eq_cons_iff.mp letters
    obtain ⟨third, _, rfl, three, letters⟩ := List.map_eq_cons_iff.mp letters
    obtain ⟨fourth, _, rfl, four, letters⟩ := List.map_eq_cons_iff.mp letters
    rw [List.map_eq_nil_iff.mp letters, eq_space_of_toLower one, eq_space_of_toLower four] at taken
    refine ⟨[second, third], chars.drop 4, ?_, ?_⟩
    · rw [← List.take_append_drop 4 chars, taken, List.drop_append_of_le_length (by simp)]
      rfl
    · unfold Identifier.isAsWord Text.equalsIgnoringCase
      rw [List.map_cons, List.map_singleton, two, three]
      rfl
  · rintro ⟨word, rest, rfl, spelled⟩
    have letters : word.map Char.toLower = ['a', 's'] := beq_iff_eq.mp spelled
    have long : word.length = 2 := by
      rw [← List.length_map Char.toLower, letters]
      rfl
    have taken : (' ' :: (word ++ ' ' :: rest)).take 4 = ' ' :: (word ++ [' ']) := by
      rw [List.take_succ_cons, List.take_append, long, List.take_of_length_le (by omega)]
      rfl
    have whole : (' ' :: (word ++ [' '])).map Char.toLower = [' ', 'a', 's', ' '] := by
      rw [List.map_cons, List.map_append, letters]
      rfl
    have start : ([' ', 'a', 's', ' '] : List Char).length = 4 := rfl
    unfold StartsAs Text.startsIgnoringCase Text.equalsIgnoringCase
    rw [start, taken, whole]
    rfl

/-- Of some white space only the last character can be the plain space before the word. -/
theorem startsAs_behind_blanks {blanks behind : List Char}
    (blank : ∀ char ∈ blanks, Text.isBlank char = true) (inhabited : blanks ≠ [])
    (starts : StartsAs (blanks ++ behind)) :
    blanks = [' '] ∧
      ∃ word rest, behind = word ++ ' ' :: rest ∧ Identifier.isAsWord word = true := by
  obtain ⟨word, rest, same, spelled⟩ := startsAs_iff.mp starts
  obtain ⟨some, visible⟩ := Identifier.visible_of_isAsWord spelled
  obtain ⟨mark, inner, rfl⟩ := List.exists_cons_of_ne_nil inhabited
  rw [List.cons_append] at same
  obtain ⟨rfl, begins⟩ := List.cons.inj same
  obtain rfl := nil_of_blanks (List.forall_mem_cons.mp blank).2 some visible begins
  exact ⟨rfl, word, rest, begins, spelled⟩

theorem afterLastAs?_none {chars : List Char}
    (nowhere : ∀ front back, chars = front ++ back → ¬StartsAs back) :
    afterLastAs? chars = none := by
  induction chars with
  | nil => rfl
  | cons char rest ih =>
      have later : afterLastAs? rest = none :=
        ih fun front back split => nowhere (char :: front) back (congrArg (char :: ·) split)
      rw [afterLastAs?, later]
      exact if_neg (nowhere [] _ rfl)

theorem afterLastAs?_append {back name : List Char} (found : afterLastAs? back = some name)
    (front : List Char) : afterLastAs? (front ++ back) = some name := by
  induction front with
  | nil => exact found
  | cons char more ih => rw [List.cons_append, afterLastAs?, ih]

theorem afterLastAs?_here {word rest : List Char} (spelled : Identifier.isAsWord word = true)
    (last : afterLastAs? (word ++ ' ' :: rest) = none) :
    afterLastAs? (' ' :: (word ++ ' ' :: rest)) = some rest := by
  have starts : StartsAs (' ' :: (word ++ ' ' :: rest)) :=
    startsAs_iff.mpr ⟨word, rest, rfl, spelled⟩
  obtain ⟨first, second, rfl, _, _⟩ := Identifier.isAsWord_spelled spelled
  rw [afterLastAs?, last]
  exact if_pos starts

theorem append_seam {left right front back : List Char} (split : left ++ right = front ++ back) :
    (∃ inside, inside ≠ [] ∧ left = front ++ inside ∧ back = inside ++ right) ∨
      ∃ more, front = left ++ more ∧ right = more ++ back := by
  rcases List.append_eq_append_iff.mp split with ⟨more, before, behind⟩ | ⟨inside, before, behind⟩
  · exact .inr ⟨more, before, behind⟩
  · cases inside with
    | nil =>
        rw [List.append_nil] at before
        rw [List.nil_append] at behind
        exact .inr ⟨[], by rw [before, List.append_nil], by rw [behind, List.nil_append]⟩
    | cons char others => exact .inl ⟨_, List.cons_ne_nil _ _, before, behind⟩

/-! ### Columns with an alias -/

/-- The text of an expression without a word `AS` of its own, white space, that word, white space
and a plain name, which may stand between quotes. -/
structure AliasedColumn where
  expression : List Char
  before : List Char
  keyword : List Char
  after : List Char
  marks : Option (Char × Char)
  name : List Char
  shows : ∃ char ∈ expression, Text.isBlank char = false
  free : ∀ word ∈ Text.words expression, Identifier.isAsWord word = false
  blankBefore : ∀ char ∈ before, Text.isBlank char = true
  someBefore : before ≠ []
  spelled : Identifier.isAsWord keyword = true
  blankAfter : ∀ char ∈ after, Text.isBlank char = true
  someAfter : after ≠ []
  proper : ProperMarks marks
  plain : Identifier.isPlainPart name = true

namespace AliasedColumn

variable (column : AliasedColumn)

def shown : List Char :=
  around column.marks column.name

def text (column : AliasedColumn) : String :=
  String.ofList (column.expression ++
    (column.before ++ (column.keyword ++ (column.after ++ column.shown))))

def label (column : AliasedColumn) : String :=
  String.ofList column.name

def stripped : List Char :=
  column.expression.dropWhile Text.isBlank ++
    (column.before ++ (column.keyword ++ (column.after ++ column.shown)))

/-- Plain spaces stand next to the word `AS`. -/
def Spaced (column : AliasedColumn) : Prop :=
  column.before.getLast? = some ' ' ∧ column.after.head? = some ' '

instance : Decidable column.Spaced :=
  inferInstanceAs (Decidable (_ ∧ _))

theorem visible_shown : ∀ char ∈ column.shown, Text.isBlank char = false ∧ char ≠ '.' := by
  have name : ∀ char ∈ column.name, Text.isBlank char = false ∧ char ≠ '.' := by
    intro char member
    have part := isNamePart_of_isPlainPart column.plain char member
    exact ⟨isBlank_of_isNamePart part, ne_of_isNamePart part '.' (by decide)⟩
  have proper := column.proper
  unfold shown
  cases marks : column.marks with
  | none => exact name
  | some pair =>
      obtain ⟨opening, closing⟩ := pair
      obtain ⟨opens, closes⟩ := proper opening closing marks
      simp only [isOpeningQuote, isClosingQuote, Bool.or_eq_true, beq_iff_eq] at opens closes
      intro char member
      simp only [around, List.cons_append, List.mem_cons, List.mem_append, List.not_mem_nil,
        or_false] at member
      rcases member with rfl | inside | rfl
      · rcases opens with (rfl | rfl) | rfl
        all_goals decide
      · exact name char inside
      · rcases closes with (rfl | rfl) | rfl
        all_goals decide

theorem shown_ne_nil : column.shown ≠ [] := by
  have plain := column.plain
  unfold shown
  cases column.marks with
  | some pair => exact List.cons_ne_nil _ _
  | none =>
      intro none
      change column.name = [] at none
      rw [none] at plain
      cases plain

theorem trimChars_text : Text.trimChars column.text.toList = column.stripped := by
  obtain ⟨char, member, visible⟩ := column.shows
  have some : (column.expression.dropWhile Text.isBlank).isEmpty = false :=
    List.isEmpty_eq_false_iff.mpr (List.ne_nil_of_mem (Text.mem_dropWhile visible member))
  have front : column.stripped = (column.expression.dropWhile Text.isBlank ++
      (column.before ++ (column.keyword ++ column.after))) ++ column.shown := by
    simp only [stripped, List.append_assoc]
  unfold Text.trimChars Text.trimStartChars text
  rw [String.toList_ofList, List.dropWhile_append, some, if_neg Bool.false_ne_true]
  change Text.trimEndChars column.stripped = column.stripped
  rw [front]
  exact Text.trimEndChars_behind column.shown_ne_nil
    (fun char member => (column.visible_shown char member).1) _

theorem not_within_expression {front word rest : List Char}
    (within : column.expression.dropWhile Text.isBlank = front ++ ' ' :: (word ++ rest))
    (spelled : Identifier.isAsWord word = true) : ¬(rest = [] ∨ rest.head? = some ' ') := by
  intro ends
  obtain ⟨some, visible⟩ := Identifier.visible_of_isAsWord spelled
  have apart : ∀ char, rest.head? = Option.some char → Text.isBlank char = true := by
    intro char head
    rcases ends with rfl | space
    · cases head
    · rw [space] at head
      cases head
      decide
  have own : word ∈ Text.words column.expression := by
    rw [← List.takeWhile_append_dropWhile (p := Text.isBlank) (l := column.expression), within,
      ← List.append_assoc]
    exact Text.mem_words (by decide) some visible apart _
  rw [column.free word own] at spelled
  cases spelled

theorem not_startsAs_of_expression {front inside behind : List Char} (inhabited : inside ≠ [])
    (within : column.expression.dropWhile Text.isBlank = front ++ inside) :
    ¬StartsAs (inside ++ (column.before ++ behind)) := by
  intro starts
  obtain ⟨word, rest, same, spelled⟩ := startsAs_iff.mp starts
  obtain ⟨mark, inner, rfl⟩ := List.exists_cons_of_ne_nil inhabited
  obtain ⟨rfl, split⟩ := List.cons.inj same
  rcases append_seam split with ⟨beyond, someBeyond, rfl, further⟩ | ⟨more, rfl, further⟩
  · refine column.not_within_expression within spelled (.inr ?_)
    obtain ⟨char, others, rfl⟩ := List.exists_cons_of_ne_nil someBeyond
    rw [← (List.cons.inj further).1]
    rfl
  · cases more with
    | nil =>
        rw [← List.append_nil inner] at within
        exact column.not_within_expression within (by rwa [List.append_nil] at spelled) (.inl rfl)
    | cons char others =>
        have visible := (Identifier.visible_of_isAsWord spelled).2
        refine column.someBefore (nil_of_blanks column.blankBefore (List.cons_ne_nil char others) ?_
          further)
        exact fun other member => visible other (List.mem_append_right inner member)

theorem not_startsAs_of_visible {chars front back : List Char}
    (visible : ∀ char ∈ chars, Text.isBlank char = false) (split : chars = front ++ back) :
    ¬StartsAs back := by
  intro starts
  obtain ⟨word, rest, rfl, _⟩ := startsAs_iff.mp starts
  have space := visible ' ' (by rw [split]; exact List.mem_append_right front List.mem_cons_self)
  cases space

theorem not_startsAs_behind {front back : List Char}
    (split : column.keyword ++ (column.after ++ column.shown) = front ++ back) :
    ¬StartsAs back := by
  have shown := fun char member => (column.visible_shown char member).1
  rcases append_seam split with ⟨inside, inhabited, within, rfl⟩ | ⟨more, _, split⟩
  · intro starts
    obtain ⟨word, rest, same, _⟩ := startsAs_iff.mp starts
    obtain ⟨mark, inner, rfl⟩ := List.exists_cons_of_ne_nil inhabited
    have visible := (Identifier.visible_of_isAsWord column.spelled).2 mark
      (by rw [within]; exact List.mem_append_right front List.mem_cons_self)
    rw [(List.cons.inj same).1] at visible
    cases visible
  · rcases append_seam split with ⟨inside, inhabited, within, rfl⟩ | ⟨_, _, split⟩
    · intro starts
      have blank : ∀ char ∈ inside, Text.isBlank char = true := by
        intro char member
        refine column.blankAfter char ?_
        rw [within]
        exact List.mem_append_right more member
      obtain ⟨_, word, rest, same, _⟩ := startsAs_behind_blanks blank inhabited starts
      have space := shown ' ' (by
        rw [same]
        exact List.mem_append_right word List.mem_cons_self)
      cases space
    · exact not_startsAs_of_visible shown split

variable {column}

/-- No other word `AS` stands between plain spaces than the one that sets the name apart. -/
theorem spaced_of_startsAs {front back : List Char} (split : column.stripped = front ++ back)
    (starts : StartsAs back) : column.Spaced := by
  rcases append_seam split with ⟨inside, inhabited, within, rfl⟩ | ⟨more, _, split⟩
  · exact absurd starts (column.not_startsAs_of_expression inhabited within)
  rcases append_seam split with ⟨inside, inhabited, within, rfl⟩ | ⟨_, _, split⟩
  · have blank : ∀ char ∈ inside, Text.isBlank char = true := by
      intro char member
      refine column.blankBefore char ?_
      rw [within]
      exact List.mem_append_right more member
    obtain ⟨rfl, word, rest, same, spelled⟩ := startsAs_behind_blanks blank inhabited starts
    have long : column.keyword.length = word.length := by
      obtain ⟨_, _, two, _, _⟩ := Identifier.isAsWord_spelled column.spelled
      obtain ⟨_, _, other, _, _⟩ := Identifier.isAsWord_spelled spelled
      rw [two, other]
      rfl
    have behind := (List.append_inj same long).2
    obtain ⟨char, tail, after⟩ := List.exists_cons_of_ne_nil column.someAfter
    rw [after, List.cons_append] at behind
    refine ⟨?_, ?_⟩
    · rw [within, List.getLast?_append]
      rfl
    · rw [after, (List.cons.inj behind).1]
      rfl
  · exact absurd starts (column.not_startsAs_behind split)

theorem afterLastAs?_spaced (spaced : column.Spaced) :
    afterLastAs? column.stripped = some (column.after.tail ++ column.shown) := by
  obtain ⟨left, right⟩ := spaced
  obtain ⟨front, before⟩ := List.getLast?_eq_some_iff.mp left
  obtain ⟨behind, after⟩ := List.head?_eq_some_iff.mp right
  have last := afterLastAs?_none fun _ _ split => column.not_startsAs_behind split
  have split : column.stripped = (column.expression.dropWhile Text.isBlank ++ front) ++
      ' ' :: (column.keyword ++ ' ' :: (behind ++ column.shown)) := by
    rw [stripped, before, after]
    simp only [List.append_assoc, List.cons_append, List.nil_append]
  rw [after, List.cons_append] at last
  rw [split, after]
  exact afterLastAs?_append (afterLastAs?_here column.spelled last) _

theorem afterLastAs?_unspaced (apart : ¬column.Spaced) :
    afterLastAs? column.stripped = none :=
  afterLastAs?_none fun _ _ split starts => apart (spaced_of_startsAs split starts)

end AliasedColumn

theorem resultKey_of_some {column : String} {name : List Char}
    (found : afterLastAs? (Text.trimChars column.toList) = some name) :
    resultKey column =
      String.ofList (Text.trimMatching isQuoteMark (Text.trimChars name)) := by
  unfold resultKey
  dsimp only
  rw [found]

theorem resultKey_of_none {column : String}
    (missing : afterLastAs? (Text.trimChars column.toList) = none) :
    resultKey column = String.ofList
      (Text.trimMatching isQuoteMark (Text.afterLast '.' (Text.trimChars column.toList))) := by
  unfold resultKey
  dsimp only
  rw [missing]

theorem isQuoteMark_eq : isQuoteMark = isTableQuote := by
  funext char
  unfold isQuoteMark isTableQuote isOpeningQuote isClosingQuote
  cases char == '"' with
  | true => simp
  | false => simp [Bool.or_comm, Bool.or_left_comm]

theorem isQuoteMark_of_isBlank {char : Char} (blank : Text.isBlank char = true) :
    isQuoteMark char = false := by
  cases mark : isQuoteMark char with
  | false => rfl
  | true =>
      simp only [isQuoteMark, Bool.or_eq_true, beq_iff_eq] at mark
      rcases mark with ((rfl | rfl) | rfl) | rfl
      all_goals cases blank

namespace AliasedColumn

variable {column : AliasedColumn}

theorem resultKey_spaced (spaced : column.Spaced) : resultKey column.text = column.label := by
  have found : afterLastAs? (Text.trimChars column.text.toList) =
      some (column.after.tail ++ column.shown) := by
    rw [column.trimChars_text]
    exact afterLastAs?_spaced spaced
  have blank : ∀ char ∈ column.after.tail, Text.isBlank char = true :=
    fun char member => column.blankAfter char (List.mem_of_mem_tail member)
  have trimmed : Text.trimChars (column.after.tail ++ column.shown) = column.shown := by
    rw [trimChars_behind blank]
    exact Text.trimChars_visible fun char member => (column.visible_shown char member).1
  rw [resultKey_of_some found, trimmed, isQuoteMark_eq]
  exact congrArg String.ofList (trimMatching_around column.proper column.plain)

theorem resultKey_unspaced (apart : ¬column.Spaced) :
    ∃ char ∈ (resultKey column.text).toList, Text.isBlank char = true := by
  have missing : afterLastAs? (Text.trimChars column.text.toList) = none := by
    rw [column.trimChars_text]
    exact afterLastAs?_unspaced apart
  have unpointed : '.' ∉ column.before ++ (column.keyword ++ (column.after ++ column.shown)) := by
    have letters : column.keyword.map Char.toLower = ['a', 's'] := beq_iff_eq.mp column.spelled
    simp only [List.mem_append, not_or]
    refine ⟨fun member => ?_, fun member => ?_, fun member => ?_, fun member => ?_⟩
    · exact absurd (column.blankBefore _ member) (by decide)
    · have lowered : '.'.toLower ∈ column.keyword.map Char.toLower := List.mem_map_of_mem member
      rw [letters] at lowered
      exact absurd lowered (by decide)
    · exact absurd (column.blankAfter _ member) (by decide)
    · exact (column.visible_shown _ member).2 rfl
  obtain ⟨char, others, before⟩ := List.exists_cons_of_ne_nil column.someBefore
  have blank := column.blankBefore char (by rw [before]; exact List.mem_cons_self)
  refine ⟨char, ?_, blank⟩
  rw [resultKey_of_none missing, column.trimChars_text, stripped,
    Text.afterLast_append unpointed, String.toList_ofList]
  refine Text.mem_trimMatching (isQuoteMark_of_isBlank blank) (List.mem_append_right _ ?_)
  rw [before]
  exact List.mem_cons_self

theorem resultKey_iff_spaced : resultKey column.text = column.label ↔ column.Spaced := by
  constructor
  · intro same
    by_contra apart
    obtain ⟨char, member, blank⟩ := resultKey_unspaced apart
    rw [same, label, String.toList_ofList] at member
    rw [isBlank_of_isNamePart (isNamePart_of_isPlainPart column.plain char member)] at blank
    cases blank
  · exact resultKey_spaced

theorem lookup_unspaced (apart : ¬column.Spaced) {row : Row}
    (visible : ∀ cell ∈ row, ∀ char ∈ cell.1.toList, Text.isBlank char = false) :
    row.lookup (resultKey column.text) = none := by
  obtain ⟨char, member, blank⟩ := resultKey_unspaced apart
  rw [List.lookup_eq_none_iff]
  intro cell listed
  rw [bne_iff_ne]
  intro same
  rw [same] at member
  rw [visible cell listed char member] at blank
  cases blank

/-! ### Accepting an aliased column -/

variable (column)

theorem isPlain_stripped : Identifier.isPlain column.stripped = false := by
  cases plain : Identifier.isPlain column.stripped with
  | false => rfl
  | true =>
      obtain ⟨char, others, before⟩ := List.exists_cons_of_ne_nil column.someBefore
      have blank := column.blankBefore char (by rw [before]; exact List.mem_cons_self)
      have member : char ∈ column.stripped := by
        unfold stripped
        rw [before]
        exact List.mem_append_right _ List.mem_cons_self
      rcases point_or_isNamePart plain char member with rfl | part
      · cases blank
      · rw [isBlank_of_isNamePart part] at blank
        cases blank

theorem isComplex_stripped : Identifier.isComplex column.stripped = true := by
  obtain ⟨front, last, before⟩ := (List.eq_nil_or_concat' column.before).resolve_left
    column.someBefore
  have blank := column.blankBefore last (by simp [before])
  obtain ⟨some, visible⟩ := Identifier.visible_of_isAsWord column.spelled
  have apart : ∀ char, (column.after ++ column.shown).head? = Option.some char →
      Text.isBlank char = true := by
    intro char head
    obtain ⟨first, others, after⟩ := List.exists_cons_of_ne_nil column.someAfter
    rw [after, List.cons_append] at head
    cases head
    exact column.blankAfter char (by rw [after]; exact List.mem_cons_self)
  have word : column.keyword ∈ Text.words column.stripped := by
    have member := Text.mem_words blank some visible apart
      (column.expression.dropWhile Text.isBlank ++ front)
    rw [stripped, before]
    simpa only [List.append_assoc, List.cons_append, List.nil_append] using member
  unfold Identifier.isComplex
  rw [Bool.or_eq_true]
  exact .inr (List.any_eq_true.mpr ⟨_, word, column.spelled⟩)

theorem readColumn_text : Identifier.readColumn column.text =
    if Identifier.hasForbidden column.stripped then
      .error (.invalidIdentifier "column" column.text)
    else .ok (.expression (String.ofList column.stripped)) := by
  have some : column.stripped.isEmpty = false := by
    rw [List.isEmpty_eq_false_iff]
    intro none
    have shown := column.shown_ne_nil
    unfold stripped at none
    simp only [List.append_eq_nil_iff] at none
    exact shown none.2.2.2.2
  unfold Identifier.readColumn Identifier.read
  dsimp only
  rw [column.trimChars_text, some, Bool.false_or, column.isPlain_stripped,
    column.isComplex_stripped]
  rfl

end AliasedColumn

/-- Every aliased column without a forbidden sequence is accepted. Its result is read under the
alias exactly if plain spaces stand next to the word `AS`; otherwise rows show nothing under its
key. -/
theorem alias_is_result_key_between_plain_spaces (column : AliasedColumn) :
    (Identifier.readColumn column.text = .ok (.expression (Text.trim column.text)) ↔
        Identifier.hasForbidden (Text.trimChars column.text.toList) = false) ∧
      (resultKey column.text = column.label ↔ column.Spaced) ∧
      (column.Spaced → ∀ (World : Type) (engine : Engine World) (builder : Builder),
        engine.pluck builder column.text =
          (fun output => output.rows.map fun row => (row.lookup column.label).getD .null) <$>
            engine.read builder (.column column.text) ∧
        (∀ other, engine.pluckPairs builder column.text other =
          (fun output => keyedPairs column.label (resultKey other) output.rows) <$>
            engine.read builder (.pair column.text other)) ∧
        (∀ other, engine.pluckPairs builder other column.text =
          (fun output => keyedPairs (resultKey other) column.label output.rows) <$>
            engine.read builder (.pair other column.text)) ∧
        ∀ cursor limit, 1 ≤ limit → engine.cursorPaginate builder column.text cursor limit =
          (fun output =>
            let data := output.rows.take limit.toNat
            let next := data.getLast?.bind fun row => row.lookup column.label
            ⟨data, limit.toNat < output.rows.length,
              if limit.toNat < output.rows.length then next.map Value.ofJson else none⟩) <$>
            engine.read builder (.cursor column.text cursor limit.toNat)) ∧
      (¬column.Spaced → ∀ (World : Type) (engine : Engine World) (builder : Builder)
        (session after : Session World) (output : QueryOutput),
        (engine.read builder (.column column.text)).run session = (.ok output, after) →
        (∀ row ∈ output.rows, ∀ cell ∈ row, ∀ char ∈ cell.1.toList,
          Text.isBlank char = false) →
        (engine.pluck builder column.text).run session =
          (.ok (output.rows.map fun _ => .null), after)) := by
  refine ⟨?_, AliasedColumn.resultKey_iff_spaced, ?_, ?_⟩
  · have trimmed : Text.trim column.text = String.ofList column.stripped :=
      congrArg String.ofList column.trimChars_text
    rw [column.readColumn_text, column.trimChars_text, trimmed]
    cases Identifier.hasForbidden column.stripped with
    | false => exact iff_of_true rfl rfl
    | true => exact iff_of_false (fun same => by cases same) (fun same => by cases same)
  · intro spaced World engine builder
    have key := AliasedColumn.resultKey_spaced spaced
    refine ⟨?_, fun other => ?_, fun other => ?_, fun cursor limit positive => ?_⟩
    · rw [Engine.pluck_eq_read, key]
    · rw [Engine.pluckPairs_eq_read, key]
    · rw [Engine.pluckPairs_eq_read, key]
    · rw [Engine.cursorPaginate_eq_read engine builder column.text cursor limit positive, ← key]
      rfl
  · intro apart World engine builder session after output read visible
    rw [Engine.pluck_eq_read, Action.run_map, read]
    refine Prod.ext (congrArg Except.ok (List.map_congr_left fun row member => ?_)) rfl
    rw [AliasedColumn.lookup_unspaced apart (visible row member)]
    rfl

def spreadColumn : AliasedColumn where
  expression := "sum(o.total)  * 1.5".toList
  before := ['\t', ' ']
  keyword := ['a', 'S']
  after := [' ', '\n']
  marks := some ('[', ']')
  name := "grand_total".toList
  shows := ⟨'s', by decide, by decide⟩
  free := by decide
  blankBefore := List.all_eq_true.mp (by decide)
  someBefore := by decide
  spelled := by decide
  blankAfter := List.all_eq_true.mp (by decide)
  someAfter := by decide
  proper := Dialect.mssql.marks_proper
  plain := by decide

theorem spread_column_is_read_under_its_alias :
    Identifier.readColumn spreadColumn.text = .ok (.expression (Text.trim spreadColumn.text)) ∧
      resultKey spreadColumn.text = "grand_total" ∧
      ∀ (World : Type) (engine : Engine World) (builder : Builder),
        engine.pluck builder spreadColumn.text =
          (fun output => output.rows.map fun row => (row.lookup "grand_total").getD .null) <$>
            engine.read builder (.column spreadColumn.text) := by
  have spaced : spreadColumn.Spaced := by decide
  obtain ⟨accepted, key, read, _⟩ := alias_is_result_key_between_plain_spaces spreadColumn
  exact ⟨accepted.mpr (by decide +kernel), key.mpr spaced,
    fun World engine builder => (read spaced World engine builder).1⟩

def tabbedColumn : AliasedColumn where
  expression := "COUNT(*)".toList
  before := ['\t']
  keyword := ['A', 'S']
  after := ['\t']
  marks := none
  name := "total".toList
  shows := ⟨'C', by decide, by decide⟩
  free := by decide
  blankBefore := List.all_eq_true.mp (by decide)
  someBefore := by decide
  spelled := by decide
  blankAfter := List.all_eq_true.mp (by decide)
  someAfter := by decide
  proper := properMarks_none
  plain := by decide

def ordersEngine : Engine Rehearsal :=
  { executor := Rehearsal.executor, profile := Dialect.sqlite.profile }

def ordersCounted : Session Rehearsal :=
  ⟨{ replies := [.answer { rows := [[("total", .number (.int 3))]], rowCount := 1 } {}] }, {}⟩

/-- The column is accepted, but its alias is not its key, and the total is not read. -/
theorem tabbed_alias_is_not_read :
    Identifier.readColumn tabbedColumn.text = .ok (.expression "COUNT(*)\tAS\ttotal") ∧
      resultKey tabbedColumn.text ≠ "total" ∧
      ∃ builder after, ordersEngine.query.applyAll [.readFrom "orders"] = .ok builder ∧
        (ordersEngine.pluck builder tabbedColumn.text).run ordersCounted =
          (.ok [.null], after) := by
  refine ⟨?_, ?_, _, _, rfl, rfl⟩
  · rfl
  · decide

end BoundQuery
