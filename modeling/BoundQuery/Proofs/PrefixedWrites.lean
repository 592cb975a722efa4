import BoundQuery.Proofs.CachedWrites
import BoundQuery.Proofs.Freshness
import BoundQuery.Proofs.NamelessText
import BoundQuery.Proofs.Phrases

/-!
Writes by raw statements. Such a write drops what depends on its table, and its result is never
stored, however its words are spelled and spaced. With common tables in front it counts as a
statement that reads: it drops nothing, and its result is stored like that of a query.
-/

set_option autoImplicit false

namespace BoundQuery

/-! ### Scanning words and white space -/

def isSmallWord (word : List Char) : Bool :=
  word.all (fun char => 97 ≤ char.toNat && char.toNat ≤ 122)

theorem isNamePart_of_small {word : List Char} (small : isSmallWord word = true) {char : Char}
    (member : char.toLower ∈ word) : Text.isNamePart char = true := by
  have letter := List.all_eq_true.mp small char.toLower member
  rw [Bool.and_eq_true, decide_eq_true_iff, decide_eq_true_iff, toNat_toLower] at letter
  change ((decide ('A'.val ≤ char.val ∧ char.val ≤ 'Z'.val) ||
    'a'.val ≤ char.val && char.val ≤ 'z'.val || '0'.val ≤ char.val && char.val ≤ '9'.val) ||
      char == '_') = true
  simp only [Bool.or_eq_true, Bool.and_eq_true, decide_eq_true_eq, UInt32.le_iff_toNat_le]
  have code : char.val.toNat = char.toNat := rfl
  have bounds : 'A'.val.toNat = 65 ∧ 'Z'.val.toNat = 90 ∧ 'a'.val.toNat = 97 ∧
      'z'.val.toNat = 122 := by decide
  split at letter
  · omega
  · omega

theorem isNamePart_of_spelled {word : List Char}
    (small : isSmallWord (word.map Char.toLower) = true) :
    ∀ char ∈ word, Text.isNamePart char = true :=
  fun _ member => isNamePart_of_small small (List.mem_map_of_mem member)

theorem isKeyLetter_of_isBlank {char : Char} (blank : Text.isBlank char = true) :
    isKeyLetter char = false := by
  cases letter : isKeyLetter char with
  | false => rfl
  | true =>
      have small : isSmallWord tableKeywords.flatten = true := by decide
      have part := isNamePart_of_small small (List.contains_iff_mem.mp letter)
      rw [isBlank_of_isNamePart part] at blank
      cases blank

theorem isBlank_of_isAsciiBlank {char : Char} (blank : Text.isAsciiBlank char = true) :
    Text.isBlank char = true := by
  unfold Text.isAsciiBlank at blank
  simp only [Text.isBlank, Bool.or_eq_true, Bool.and_eq_true, decide_eq_true_eq, beq_iff_eq]
    at blank ⊢
  rcases blank with range | rfl
  · simp [range]
  · decide

theorem scanTables_blanks {blanks : List Char} (blank : ∀ char ∈ blanks, Text.isBlank char = true)
    (rest : List Char) : ∀ inWord : Bool, (blanks = [] → inWord = false) →
      scanTables 0 inWord (blanks ++ rest) = scanTables 0 false rest := by
  induction blanks with
  | nil =>
      intro inWord outside
      rw [outside rfl]
      rfl
  | cons char more ih =>
      intro inWord _
      obtain ⟨own, others⟩ := List.forall_mem_cons.mp blank
      have apart : Text.isNamePart char = false := by
        cases part : Text.isNamePart char with
        | false => rfl
        | true =>
            rw [isBlank_of_isNamePart part] at own
            cases own
      rw [List.cons_append, scanTables, tableAt?_of_neutral (isKeyLetter_of_isBlank own), ite_self,
        apart]
      exact ih others false fun _ => rfl

theorem scanTables_inWord {word : List Char} (parts : ∀ char ∈ word, Text.isNamePart char = true)
    (rest : List Char) : scanTables 0 true (word ++ rest) = scanTables 0 true rest := by
  induction word with
  | nil => rfl
  | cons char more ih =>
      obtain ⟨own, others⟩ := List.forall_mem_cons.mp parts
      rw [List.cons_append, scanTables, if_pos rfl, own]
      exact ih others

theorem tableAt?_of_other {chars : List Char}
    (other : ∀ keyword ∈ tableKeywords, Text.startsIgnoringCase keyword chars = false) :
    tableAt? chars = none := by
  unfold tableAt?
  rw [List.findSome?_eq_none_iff]
  intro keyword listed
  rw [other keyword listed, if_neg Bool.false_ne_true]

theorem scanTables_other_word {word gap : List Char}
    (spelled : word.map Char.toLower ∈ ["insert".toList, "delete".toList])
    (blank : ∀ char ∈ gap, Text.isBlank char = true) (some : gap ≠ []) (rest : List Char) :
    scanTables 0 false (word ++ (gap ++ rest)) = scanTables 0 false rest := by
  have letters : ∀ lower ∈ ["insert".toList, "delete".toList],
      lower.length = 6 ∧ isSmallWord lower = true ∧
        ∀ keyword ∈ tableKeywords, keyword.length ≤ 6 ∧
          (keyword.map Char.toLower == lower.take keyword.length) = false := by
    decide
  obtain ⟨six, small, other⟩ := letters _ spelled
  rw [List.length_map] at six
  have none : tableAt? (word ++ (gap ++ rest)) = none := by
    refine tableAt?_of_other fun keyword listed => ?_
    obtain ⟨short, differs⟩ := other keyword listed
    rw [startsIgnoringCase_append (by omega), differs]
  -- Nothing is looked for within a word, so that only its first letter could start a find.
  have parts := isNamePart_of_spelled small
  obtain ⟨first, more, rfl⟩ : ∃ first more, word = first :: more :=
    List.exists_cons_of_length_pos (by omega)
  obtain ⟨own, others⟩ := List.forall_mem_cons.mp parts
  rw [List.cons_append] at none ⊢
  rw [scanTables, none, ite_self]
  dsimp only
  rw [own, scanTables_inWord others]
  exact scanTables_blanks blank rest true fun empty => absurd empty some

theorem isReadStatement_behind {margin word : List Char}
    (blank : ∀ char ∈ margin, Text.isBlank char = true)
    (lower : word.map Char.toLower ∈
      ["with".toList, "insert".toList, "update".toList, "delete".toList]) (rest : List Char) :
    isReadStatement (String.ofList (margin ++ (word ++ rest))) =
      (word.map Char.toLower == "with".toList) := by
  have letters : ∀ lower ∈ ["with".toList, "insert".toList, "update".toList, "delete".toList],
      lower ≠ [] ∧ isSmallWord lower = true := by
    decide
  obtain ⟨some, small⟩ := letters _ lower
  have trimmed : Text.trimStartChars (margin ++ (word ++ rest)) = word ++ rest := by
    obtain ⟨first, more, rfl⟩ := List.exists_cons_of_ne_nil (List.map_eq_nil_iff.not.mp some)
    have visible : Text.isBlank first = false :=
      isBlank_of_isNamePart (isNamePart_of_spelled small first List.mem_cons_self)
    unfold Text.trimStartChars
    rw [List.dropWhile_append_of_pos blank, List.cons_append,
      List.dropWhile_cons_of_neg (by simp [visible])]
  have long : (word.map Char.toLower).length = word.length := List.length_map _
  unfold isReadStatement
  rw [String.toList_ofList, trimmed]
  dsimp only
  -- The words of writes are six letters long, which both `SELECT` and `WITH` can be compared with.
  rcases List.mem_cons.mp lower with reads | writes
  · have starts : Text.startsIgnoringCase "with".toList (word ++ rest) = true := by
      rw [reads] at long
      rw [startsIgnoringCase_append long.le, reads]
      rfl
    rw [starts, Bool.or_true, reads]
    rfl
  · have six : ∀ lower ∈ ["insert".toList, "update".toList, "delete".toList],
        lower.length = 6 ∧
          ("select".toList.map Char.toLower == lower.take 6) = false ∧
          ("with".toList.map Char.toLower == lower.take 4) = false ∧
          (lower == "with".toList) = false := by
      decide
    obtain ⟨length, other, differs, apart⟩ := six _ writes
    rw [length] at long
    have select : "select".toList.length ≤ word.length := long.le
    have leads : "with".toList.length ≤ word.length :=
      (show "with".toList.length ≤ 6 by decide).trans long.le
    rw [startsIgnoringCase_append select, startsIgnoringCase_append leads, apart]
    exact Bool.or_eq_false_iff.mpr ⟨other, differs⟩

/-! ### The text of a write -/

/-- A name, the word `AS` and a query in parentheses. -/
structure CommonTable where
  before : List Char
  name : List Char
  gap : List Char
  keyword : List Char
  opening : List Char
  query : List Char
  behind : List Char
  blank : (before ++ gap ++ opening ++ behind).all Text.isBlank = true
  apart : gap ≠ []
  plain : Identifier.isPlainPart name = true
  spelled : Identifier.isAsWord keyword = true
  reads : isReadStatement (String.ofList query) = true

def CommonTable.chars (common : CommonTable) : List Char :=
  common.before ++ common.name ++ common.gap ++ common.keyword ++ common.opening ++
    '(' :: common.query ++ ')' :: common.behind

/-- The word `WITH` and common tables. -/
structure WithClause where
  word : List Char
  gap : List Char
  first : CommonTable
  others : List CommonTable
  spelled : word.map Char.toLower = "with".toList
  blank : gap.all Text.isBlank = true
  apart : gap ≠ []

def WithClause.chars (clause : WithClause) : List Char :=
  clause.word ++ clause.gap ++
    [','].intercalate ((clause.first :: clause.others).map CommonTable.chars)

def writeWords : List (List (List Char)) :=
  [["insert".toList, "into".toList], ["update".toList], ["delete".toList, "from".toList]]

/-- A write: perhaps common tables, the words of the write, each with white space behind it, its
table and what else there is. -/
structure RawWrite where
  margin : List Char
  clause : Option WithClause
  words : List (List Char × List Char)
  marks : Option (Char × Char)
  table : String
  rest : List Char
  blank : margin.all Text.isBlank = true
  spelled : words.map (fun word => word.1.map Char.toLower) ∈ writeWords
  apart : ∀ word ∈ words, word.2.all Text.isAsciiBlank = true ∧ word.2 ≠ []
  proper : ProperMarks marks
  plain : IsPlainName table
  ends : NameEnds rest
  stop : rest.head? ≠ some '.'

namespace RawWrite

def body (write : RawWrite) : List Char :=
  write.words.flatMap (fun word => word.1 ++ word.2) ++
    (writtenName write.marks (nameParts write.table) ++ write.rest)

def text (write : RawWrite) : String :=
  String.ofList (write.margin ++ ((write.clause.map WithClause.chars).getD [] ++ write.body))

theorem words_cases (write : RawWrite) :
    ∃ word gap, word.map Char.toLower ∈ tableKeywords ∧
      gap.all Text.isAsciiBlank = true ∧ gap ≠ [] ∧
      (write.words = [(word, gap)] ∧ word.map Char.toLower = "update".toList ∨
        ∃ first space, write.words = [(first, space), (word, gap)] ∧
          first.map Char.toLower ∈ ["insert".toList, "delete".toList] ∧
          space.all Text.isAsciiBlank = true ∧ space ≠ []) := by
  have shapes : ∀ lowers ∈ writeWords, lowers = ["update".toList] ∨
      ∃ first ∈ ["insert".toList, "delete".toList], ∃ last ∈ tableKeywords,
        lowers = [first, last] := by
    decide
  have apart := write.apart
  rcases shapes _ write.spelled with single | ⟨first, verb, last, keyword, double⟩
  · obtain ⟨⟨word, gap⟩, none, split, lower, same⟩ := List.map_eq_cons_iff.mp single
    obtain rfl := List.map_eq_nil_iff.mp same
    rw [split] at apart
    obtain ⟨blank, some⟩ := apart (word, gap) List.mem_cons_self
    exact ⟨word, gap, by rw [lower]; decide, blank, some, .inl ⟨split, lower⟩⟩
  · obtain ⟨⟨leading, space⟩, more, split, lower, further⟩ := List.map_eq_cons_iff.mp double
    obtain ⟨⟨word, gap⟩, none, rfl, same, ended⟩ := List.map_eq_cons_iff.mp further
    obtain rfl := List.map_eq_nil_iff.mp ended
    rw [split] at apart
    obtain ⟨blanks, there⟩ := apart (leading, space) List.mem_cons_self
    obtain ⟨blank, some⟩ := apart (word, gap) (List.mem_cons_of_mem _ List.mem_cons_self)
    rw [← lower] at verb
    rw [← same] at keyword
    exact ⟨word, gap, keyword, blank, some, .inr ⟨leading, space, split, verb, blanks, there⟩⟩

theorem body_starts (write : RawWrite) :
    ∃ word rest, write.body = word ++ rest ∧
      word.map Char.toLower ∈ ["insert".toList, "update".toList, "delete".toList] := by
  obtain ⟨word, gap, _, _, _, ⟨alone, last⟩ | ⟨first, space, both, lower, _⟩⟩ :=
    write.words_cases
  · refine ⟨word, gap ++ (writtenName write.marks (nameParts write.table) ++ write.rest), ?_, ?_⟩
    · simp [body, alone]
    · rw [last]
      decide
  · refine ⟨first, space ++ (word ++ (gap ++
      (writtenName write.marks (nameParts write.table) ++ write.rest))), ?_, ?_⟩
    · simp [body, both]
    · rcases List.mem_pair.mp lower with same | same
      · rw [same]
        decide
      · rw [same]
        decide

/-- The table is the first that is found in a write. -/
theorem scanTables_body (write : RawWrite) :
    ∃ more, scanTables 0 false write.body = lastSegment write.table :: more := by
  obtain ⟨part, others, parts, plain⟩ := write.plain.parts
  obtain ⟨word, gap, keyword, blank, some, alone | both⟩ := write.words_cases
  all_goals
    have found := scanTables_spelled write.proper keyword (List.all_eq_true.mp blank) some part
      others plain write.ends write.stop
    rw [← parts, ← lastSegment_of_parts parts] at found
  · obtain ⟨more, scanned⟩ := found
    refine ⟨more, ?_⟩
    rw [← scanned]
    simp [body, alone.1]
  · obtain ⟨first, space, split, lower, blanks, there⟩ := both
    obtain ⟨more, scanned⟩ := found
    have passed := scanTables_other_word lower
      (fun char member => isBlank_of_isAsciiBlank (List.all_eq_true.mp blanks char member)) there
      (word ++ (gap ++ (writtenName write.marks (nameParts write.table) ++ write.rest)))
    refine ⟨more, ?_⟩
    rw [← scanned, ← passed]
    simp [body, split]

theorem table_referenced (write : RawWrite) (bare : write.clause = none) :
    tableLabel write.table ∈ referencedTables write.text := by
  obtain ⟨more, found⟩ := write.scanTables_body
  have blank := List.all_eq_true.mp write.blank
  unfold referencedTables text
  rw [mem_firstOccurrences, bare, String.toList_ofList, Option.map_none, Option.getD_none,
    List.nil_append, scanTables_blanks blank _ false (fun _ => rfl), found]
  exact List.mem_cons_self

/-- A write starts like a statement that reads exactly if there are common tables in front of it. -/
theorem isReadStatement_text (write : RawWrite) :
    isReadStatement write.text = write.clause.isSome := by
  have blank := List.all_eq_true.mp write.blank
  unfold text
  cases prefixed : write.clause with
  | none =>
      obtain ⟨word, rest, body, lower⟩ := write.body_starts
      rw [Option.map_none, Option.getD_none, List.nil_append, body,
        isReadStatement_behind blank (List.mem_cons_of_mem _ lower)]
      exact beq_false_of_ne (ne_of_mem_of_not_mem lower (by decide))
  | some clause =>
      have lower : clause.word.map Char.toLower ∈
          ["with".toList, "insert".toList, "update".toList, "delete".toList] := by
        rw [clause.spelled]
        exact List.mem_cons_self
      rw [Option.map_some, Option.getD_some, WithClause.chars, List.append_assoc,
        List.append_assoc, isReadStatement_behind blank lower, clause.spelled]
      rfl

end RawWrite

/-! ### What executing, reading and warming leave -/

variable {Outside : Type}

def Session.Shelves (session : Session (Site Outside)) (key : String) (output : QueryOutput) :
    Prop :=
  ∃ entry, (key, entry) ∈ session.entries ∧ entry.value = output.toJson

namespace Setup

variable {setup : Setup Outside} {session : Session (Site Outside)} {builder : Builder}
variable {statement : Statement} {output : QueryOutput}

theorem writtenTables_of_raw (raw : builder.clauses.raw.isSome = true) (sql : String) :
    builder.writtenTables sql = if isReadStatement sql then [] else referencedTables sql :=
  if_pos raw

theorem execute_of_read (raw : builder.clauses.raw.isSome = true)
    (made : builder.statement = .ok statement) (reads : isReadStatement statement.sql = true) :
    ((setup.engine.execute builder).run session).2.entries = session.entries ∧
      ((setup.engine.execute builder).run session).2.cache = session.cache := by
  rcases setup.execute_cases session builder with same | ⟨other, compiled, executed⟩
  · rw [same]
    exact ⟨rfl, rfl⟩
  · obtain rfl : statement = other := Except.ok.inj (made.symm.trans compiled)
    have none : builder.writtenTables statement.sql = [] := by
      rw [writtenTables_of_raw raw, if_pos reads]
    rcases executed with same | ⟨some, _⟩
    · rw [same]
      exact ⟨rfl, rfl⟩
    · exact absurd none some

theorem isCacheable_of_read (reads : isReadStatement statement.sql = true)
    (some : output.rows ≠ []) : setup.cache.isCacheable statement output = true := by
  unfold ResultCache.isCacheable
  rw [reads, List.isEmpty_eq_false_iff.mpr some, Bool.or_true]
  rfl

theorem storeOutput_shelves (directive : CacheDirective)
    (cacheable : setup.cache.isCacheable statement output = true) :
    (setup.cache.storeOutput statement directive output session).2.Shelves
      (setup.cache.keyFor statement directive) output := by
  unfold ResultCache.storeOutput
  rw [cacheable, Bool.not_true, if_neg Bool.false_ne_true]
  exact ⟨_, List.mem_append_right _ List.mem_cons_self, rfl⟩

theorem fetchAndStore_shelves (directive : CacheDirective)
    (reads : isReadStatement statement.sql = true)
    (answered : (setup.executor.query statement.sql statement.bindings
      session.world.outside).1 = .ok output)
    (some : output.rows ≠ []) :
    ((setup.fetchAndStore statement directive).run session).2.Shelves
      (setup.cache.keyFor statement directive) output := by
  have replied : ((setup.engine.runQuery statement).run session).1 =
      (setup.executor.query statement.sql statement.bindings session.world.outside).1.mapError
        (fun error => error.attachStatement statement.sql statement.bindings) := rfl
  rw [answered] at replied
  rw [fetchAndStore_run]
  cases ran : (setup.engine.runQuery statement).run session with
  | mk outcome after =>
      rw [ran] at replied
      have fetched : outcome = .ok output := replied
      subst fetched
      exact storeOutput_shelves directive (isCacheable_of_read reads some)

theorem warmup_single (made : builder.statement = .ok statement) :
    ((setup.engine.warmup setup.cache [builder]).run session).2 =
      ((setup.fetchAndStore statement builder.directive).run session).2 := by
  rw [warmup_run, made]
  dsimp only
  cases (setup.fetchAndStore statement builder.directive).run session with
  | mk outcome after =>
      cases outcome with
      | error error => rfl
      | ok output => rfl

theorem get_of_miss {key : String}
    (keyed : setup.engine.keyOf? builder .whole = some (key, statement))
    (missing : (setup.cache.get QueryOutput.ofJson? key session).1 = none) :
    let directive := setup.engine.directiveFor builder .whole statement
    setup.cache.keyFor statement directive = key ∧
      ((setup.engine.get builder).run session).2 =
        ((setup.fetchAndStore statement directive).run
          (setup.cache.get QueryOutput.ofJson? key session).2).2 := by
  intro directive
  refine ⟨(Engine.fetchWith_of_keyOf? rfl keyed).1, ?_⟩
  have run := Engine.read_through rfl keyed session
  rw [Engine.get_eq_read, Action.run_map, run, fetchAndStore_run]
  cases looked : setup.cache.get QueryOutput.ofJson? key session with
  | mk found missed =>
      rw [looked] at missing
      cases missing
      dsimp only
      cases (setup.engine.runQuery statement).run missed with
      | mk outcome after =>
          cases outcome with
          | error error => rfl
          | ok output => rfl

end Setup

/-- Once the statement has been executed, nothing is left that stood under the table, and nothing
that is done stores a result of it. -/
structure Setup.CountsAsWrite (setup : Setup Outside) (builder : Builder) (statement : Statement)
    (table : String) (session : Session (Site Outside)) : Prop where
  dropped : ∀ output, ((setup.engine.execute builder).run session).1 = .ok output →
    ∀ kept ∈ ((setup.engine.execute builder).run session).2.entries,
      kept.1 ∉ session.keysFor (tableLabel table)
  read : ∀ kept ∈ ((setup.engine.get builder).run session).2.entries, kept ∈ session.entries
  warmed : ∀ kept ∈ ((setup.engine.warmup setup.cache [builder]).run session).2.entries,
    kept ∈ session.entries
  unstored : ∀ steps key output time lifetime,
    Event.stored key (.result statement output) time lifetime ∉ Step.eventsOf setup session steps

/-- Executing the statement drops nothing, and what is fetched for it is stored. -/
structure Setup.CountsAsRead (setup : Setup Outside) (builder : Builder) (statement : Statement)
    (session : Session (Site Outside)) : Prop where
  kept : ((setup.engine.execute builder).run session).2.entries = session.entries
  indexed : ((setup.engine.execute builder).run session).2.cache = session.cache
  read : ∀ key output, setup.engine.keyOf? builder .whole = some (key, statement) →
    (setup.cache.get QueryOutput.ofJson? key session).1 = none →
    (setup.executor.query statement.sql statement.bindings session.world.outside).1 =
      .ok output → output.rows ≠ [] →
    ((setup.engine.get builder).run session).2.Shelves key output
  warmed : ∀ output,
    (setup.executor.query statement.sql statement.bindings session.world.outside).1 =
      .ok output → output.rows ≠ [] →
    ((setup.engine.warmup setup.cache [builder]).run session).2.Shelves
      (setup.cache.keyFor statement builder.directive) output

namespace Setup

variable {setup : Setup Outside} {builder : Builder} {statement : Statement}

theorem countsAsRead (raw : builder.clauses.raw.isSome = true)
    (made : builder.statement = .ok statement) (reads : isReadStatement statement.sql = true)
    (session : Session (Site Outside)) : setup.CountsAsRead builder statement session := by
  obtain ⟨kept, indexed⟩ := execute_of_read raw made reads
  refine ⟨kept, indexed, ?_, ?_⟩
  · intro key output keyed missing answered some
    obtain ⟨own, run⟩ := get_of_miss keyed missing
    rw [← setup.get_outside session QueryOutput.ofJson? key] at answered
    have shelved := fetchAndStore_shelves (setup.engine.directiveFor builder .whole statement)
      reads answered some
    rw [own, ← run] at shelved
    exact shelved
  · intro output answered some
    rw [warmup_single made]
    exact fetchAndStore_shelves _ reads answered some

theorem countsAsWrite (selective : setup.caching.selectOnly = true)
    (dropping : setup.caching.invalidateOnWrite = true)
    (raw : builder.clauses.raw.isSome = true) (made : builder.statement = .ok statement)
    (writes : isReadStatement statement.sql = false) {table : String}
    (named : tableLabel table ∈ referencedTables statement.sql)
    (session : Session (Site Outside)) :
    setup.CountsAsWrite builder statement table session := by
  constructor
  · intro output executed kept member
    have gone := (setup.execute_spec session builder).2 output statement made executed dropping
    refine gone kept member (tableLabel table) (tableLabel table) ?_ rfl
    rw [writtenTables_of_raw raw, writes, if_neg Bool.false_ne_true]
    exact named
  · intro kept member
    have whole : builder.statementOf .whole = .ok statement := made
    rw [Engine.get_eq_read, Action.run_map] at member
    exact entries_of_write selective whole writes kept member
  · intro kept member
    have left := (warmup_moves setup.allows_all [builder] session).traces kept member
    have none : setup.eventsOfWarmup [builder] session = [] := by
      unfold eventsOfWarmup
      rw [made]
      dsimp only
      rw [eventsOfFetch_of_write selective writes, List.nil_append]
      cases (setup.fetchAndStore statement builder.directive).run session with
      | mk outcome after =>
          cases outcome with
          | error error => rfl
          | ok output => rfl
    rw [none] at left
    exact left
  · intro steps key output time lifetime stored
    have reads : isReadStatement statement.sql = true :=
      Step.eventsOf_onlyReads selective session _ stored
    rw [writes] at reads
    cases reads

end Setup

/-- A raw write without common tables counts as a write: executing it drops what stood under its
table, and its result is never stored. With common tables in front of it, however they are spelled,
it counts as a statement that reads: executing it drops nothing, and its result is stored. -/
theorem raw_write_counts_as_write_unless_prefixed (setup : Setup Outside)
    (selective : setup.caching.selectOnly = true)
    (dropping : setup.caching.invalidateOnWrite = true) (builder : Builder) (raw : RawStatement)
    (pending : builder.clauses.raw = some raw) (write : RawWrite) (written : raw.sql = write.text)
    (session : Session (Site Outside)) :
    ∃ statement, builder.statement = .ok statement ∧ statement.sql = write.text ∧
      (write.clause = none → setup.CountsAsWrite builder statement write.table session) ∧
      (write.clause.isSome = true → setup.CountsAsRead builder statement session) := by
  have unset : builder.clauses.raw.isSome = true := by rw [pending, Option.isSome_some]
  obtain ⟨statement, made, text⟩ :
      ∃ statement, builder.statement = .ok statement ∧ statement.sql = write.text := by
    unfold Builder.statement Clauses.compile
    rw [pending]
    exact ⟨_, rfl, written⟩
  have head := write.isReadStatement_text
  rw [← text] at head
  refine ⟨statement, made, text, ?_, ?_⟩
  · intro bare
    rw [bare] at head
    have named := write.table_referenced bare
    rw [← text] at named
    exact Setup.countsAsWrite selective dropping unset made head named session
  · intro prefixed
    rw [prefixed] at head
    exact Setup.countsAsRead unset made head session

def rawWriter (sql key : String) : Builder :=
  { profile := Dialect.sqlite.profile
    cacheable := true
    clauses := ({} : Clauses).withRaw sql []
    directive := { enabled := true, key := some key } }

def rawWriterCalls (sql key : String) : List Call :=
  [.raw sql [], .cache { key := some key }]

def bracketedInsert : RawWrite where
  margin := ['\n']
  clause := none
  words := [("Insert".toList, ['\n']), ("INTO".toList, ['\t', ' '])]
  marks := some ('[', ']')
  table := "app.Users"
  rest := " (name) VALUES ('Ada')".toList
  blank := by decide
  spelled := by decide
  apart := by decide
  proper := Dialect.mssql.marks_proper
  plain := by decide +kernel
  ends := by
    intro char first
    cases first
    decide
  stop := by decide

/-- The insertion drops the ranking of the users. -/
theorem bracketed_insert_drops_ranking :
    ∃ reader, countingSetup.engine.query.applyAll (rankingCalls []) = .ok reader ∧
      countingSetup.engine.query.applyAll (rawWriterCalls bracketedInsert.text "insert") =
        .ok (rawWriter bracketedInsert.text "insert") ∧
      let before := Step.run countingSetup (Setup.opening 0 2 none) [.read reader .whole]
      before.entries.map Prod.fst = ["ranking"] ∧
        ∀ kept ∈ ((countingSetup.engine.execute
          (rawWriter bracketedInsert.text "insert")).run before).2.entries,
            kept.1 ≠ "ranking" := by
  have facts : (do
      let reader ← countingSetup.engine.query.applyAll (rankingCalls [])
      let before := Step.run countingSetup (Setup.opening 0 2 none) [.read reader .whole]
      pure (before.entries.map Prod.fst, before.keysFor "users")).toOption =
      some (["ranking"], ["ranking"]) := by decide +kernel
  obtain ⟨reader, reached, last⟩ := exists_of_bind_ok (ok_of_toOption facts)
  obtain ⟨stored, indexed⟩ := Prod.mk.inj (Except.ok.inj last)
  refine ⟨reader, reached, rfl, stored, ?_⟩
  let before := Step.run countingSetup (Setup.opening 0 2 none) [.read reader .whole]
  have label : tableLabel bracketedInsert.table = "users" := by
    rw [tableLabel_eq bracketedInsert.plain]
    decide +kernel
  have executed : ((countingSetup.engine.execute
      (rawWriter bracketedInsert.text "insert")).run before).1 = .ok {} := by
    rw [Setup.execute_run]
    rfl
  obtain ⟨statement, _, _, counts, _⟩ := raw_write_counts_as_write_unless_prefixed countingSetup
    rfl rfl (rawWriter bracketedInsert.text "insert") _ rfl bracketedInsert rfl before
  intro kept member same
  apply (counts rfl).dropped {} executed kept member
  rw [label, indexed, same]
  exact List.mem_cons_self

def prefixedDelete : RawWrite where
  margin := []
  clause := some
    { word := "With".toList
      gap := [' ']
      first :=
        { before := []
          name := "gone".toList
          gap := [' ']
          keyword := "As".toList
          opening := [' ']
          query := "SELECT 1".toList
          behind := ['\n']
          blank := by decide
          apart := by decide
          plain := by decide
          spelled := by decide
          reads := by decide +kernel }
      others := []
      spelled := by decide
      blank := by decide
      apart := by decide }
  words := [("DELETE".toList, [' ']), ("from".toList, [' '])]
  marks := none
  table := "users"
  rest := []
  blank := by decide
  spelled := by decide
  apart := by decide
  proper := properMarks_none
  plain := by decide +kernel
  ends := nameEnds_nil
  stop := by decide

/-- The ranking of the users stays stored after a deletion behind a common table has been executed,
and the result of the deletion is stored when it is read. -/
theorem prefixed_delete_keeps_ranking :
    prefixedDelete.text = "With gone As (SELECT 1)\nDELETE from users" ∧
      countingSetup.caching.selectOnly = true ∧ countingSetup.caching.invalidateOnWrite = true ∧
      ∃ reader, countingSetup.engine.query.applyAll (rankingCalls []) = .ok reader ∧
        countingSetup.engine.query.applyAll (rawWriterCalls prefixedDelete.text "deletion") =
          .ok (rawWriter prefixedDelete.text "deletion") ∧
        let before := Step.run countingSetup (Setup.opening 0 2 none) [.read reader .whole]
        let executed := (countingSetup.engine.execute
          (rawWriter prefixedDelete.text "deletion")).run before
        before.keysFor "users" = ["ranking"] ∧ executed.1.isOk = true ∧
          executed.2.entries.map Prod.fst = ["ranking"] ∧
          ((countingSetup.engine.get (rawWriter prefixedDelete.text "deletion")).run
            executed.2).2.entries.map Prod.fst = ["ranking", "deletion"] := by
  have facts : (do
      let reader ← countingSetup.engine.query.applyAll (rankingCalls [])
      let before := Step.run countingSetup (Setup.opening 0 2 none) [.read reader .whole]
      let executed := (countingSetup.engine.execute
        (rawWriter prefixedDelete.text "deletion")).run before
      pure (before.keysFor "users", executed.1.isOk, executed.2.entries.map Prod.fst,
        ((countingSetup.engine.get (rawWriter prefixedDelete.text "deletion")).run
          executed.2).2.entries.map Prod.fst)).toOption =
      some (["ranking"], true, ["ranking"], ["ranking", "deletion"]) := by decide +kernel
  obtain ⟨reader, reached, last⟩ := exists_of_bind_ok (ok_of_toOption facts)
  obtain ⟨indexed, further⟩ := Prod.mk.inj (Except.ok.inj last)
  obtain ⟨succeeded, further⟩ := Prod.mk.inj further
  obtain ⟨stayed, stored⟩ := Prod.mk.inj further
  exact ⟨by decide +kernel, rfl, rfl, reader, reached, rfl, indexed, succeeded, stayed, stored⟩

end BoundQuery
