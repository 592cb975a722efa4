import BoundQuery.Proofs.Serving

/-!
Where results come from. Every entry of the store was put there by hand or holds the answer that the
executor gave to a statement read under its key, and is indexed under the tables of that statement.
This holds through every session in which no key is used for two statements.
-/

set_option autoImplicit false

namespace BoundQuery

namespace QueryOutput

private theorem mapM_row? (rows : List Row) :
    (rows.map Json.object).mapM row? = some rows := by
  induction rows with
  | nil => rfl
  | cons row rest ih =>
      rw [List.map_cons, List.mapM_cons, ih]
      rfl

private theorem mapM_text? (names : List String) :
    (names.map Json.string).mapM text? = some names := by
  induction names with
  | nil => rfl
  | cons name rest ih =>
      rw [List.map_cons, List.mapM_cons, ih]
      rfl

theorem ofParts?_toJson (output : QueryOutput) :
    ofParts? (.array (output.rows.map .object)) (.number (.int output.rowCount))
      (output.fields.map (fun names => .array (names.map .string))) = some output := by
  obtain ⟨rows, rowCount, fields⟩ := output
  have counted : count? (.number (.int rowCount)) = some rowCount := by
    have natural : (0 : Int) ≤ rowCount := by omega
    simp only [count?, natural, if_true, Int.toNat_natCast]
  cases fields with
  | none =>
      simp only [ofParts?, rows?, mapM_row?, counted]
      rfl
  | some names =>
      simp only [ofParts?, rows?, mapM_row?, counted, Option.map_some, fields?, texts?, mapM_text?]
      rfl

theorem ofJson?_toJson (output : QueryOutput) : ofJson? output.toJson = some output := by
  have parts := ofParts?_toJson output
  have first : ("row_count" : String) < "rows" := by decide
  unfold toJson Json.ofMembers
  cases named : output.fields with
  | none =>
      rw [named] at parts
      simp only [sortMembers, List.append_nil, List.foldl_cons, List.foldl_nil, insertMember, first]
      exact parts
  | some names =>
      rw [named] at parts
      simp only [sortMembers, List.cons_append, List.nil_append, List.foldl_cons, List.foldl_nil,
        insertMember, first]
      exact parts

end QueryOutput

/-! ### The invariant -/

variable {Outside : Type}

namespace Session

/-- An answer of the executor to a statement of this key; where the statement names the table, no
answer from before the mark. -/
def Fetched (uses : List (String × Statement)) (table : String) (mark : Nat)
    (session : Session (Site Outside)) (key : String) (value : Json) : Prop :=
  ∃ index answer, session.answers[index]? = some answer ∧ value = answer.output.toJson ∧
    (key, answer.statement) ∈ uses ∧
    (∀ name ∈ referencedTables answer.statement.sql, key ∈ session.keysFor name) ∧
    (table ∈ referencedTables answer.statement.sql → mark ≤ index)

structure Sound (uses : List (String × Statement)) (puts : List (String × Json)) (table : String)
    (mark : Nat) (session : Session (Site Outside)) : Prop where
  marked : mark ≤ session.answers.length
  known : ∀ kept ∈ session.entries,
    (kept.1, kept.2.value) ∈ puts ∨ session.Fetched uses table mark kept.1 kept.2.value

/-- An output comes from a value put by hand under a key of its statement, or from an answer to its
statement; where this names the table, from none before the mark. -/
def Origin (uses : List (String × Statement)) (puts : List (String × Json)) (table : String)
    (mark : Nat) (session : Session (Site Outside)) (statement : Statement)
    (output : QueryOutput) : Prop :=
  (∃ key value, (key, value) ∈ puts ∧ (key, statement) ∈ uses ∧
      QueryOutput.ofJson? value = some output) ∨
    ∃ index, session.answers[index]? = some ⟨statement, output⟩ ∧
      (table ∈ referencedTables statement.sql → mark ≤ index)

variable {uses : List (String × Statement)} {puts : List (String × Json)} {table : String}
  {mark : Nat} {before after : Session (Site Outside)}

theorem Sound.keeps (sound : before.Sound uses puts table mark) (keeps : Keeps before after) :
    after.Sound uses puts table mark := by
  refine ⟨by rw [keeps.answers]; exact sound.marked, ?_⟩
  intro kept member
  rcases sound.known kept (keeps.entries kept member) with given |
    ⟨index, answer, listed, value, used, indexed, recent⟩
  · exact .inl given
  · right
    refine ⟨index, answer, by rw [keeps.answers]; exact listed, value, used, ?_, recent⟩
    intro name named
    exact keeps.indexed kept member name (indexed name named)

theorem Sound.fetches {answer : Answer} (sound : before.Sound uses puts table mark)
    (fetches : Fetches answer before after) : after.Sound uses puts table mark := by
  have longer : mark ≤ after.answers.length := by
    have marked := sound.marked
    rw [fetches.answers, List.length_append]
    omega
  refine ⟨longer, ?_⟩
  intro kept member
  unfold entries at member
  rw [fetches.store] at member
  rcases sound.known kept member with given | ⟨index, other, listed, value, used, indexed, recent⟩
  · exact .inl given
  · right
    have earlier : index < before.answers.length := (List.getElem?_eq_some_iff.mp listed).1
    refine ⟨index, other, ?_, value, used, ?_, recent⟩
    · rw [fetches.answers, List.getElem?_append_left earlier]
      exact listed
    · intro name named
      unfold keysFor
      rw [fetches.tables]
      exact indexed name named

theorem Sound.stores {key : String} {answer : Answer} {index : Nat}
    (sound : before.Sound uses puts table mark) (stores : Stores key answer before after)
    (listed : before.answers[index]? = some answer) (recent : mark ≤ index)
    (used : (key, answer.statement) ∈ uses) : after.Sound uses puts table mark := by
  refine ⟨by rw [stores.answers]; exact sound.marked, ?_⟩
  intro kept member
  rcases stores.entries kept member with old | ⟨new, value⟩
  · rcases sound.known kept old with given | ⟨place, other, there, held, key, indexed, later⟩
    · exact .inl given
    · right
      refine ⟨place, other, by rw [stores.answers]; exact there, held, key, ?_, later⟩
      intro name named
      exact stores.indexed name kept.1 (indexed name named)
  · right
    refine ⟨index, answer, by rw [stores.answers]; exact listed, value, ?_, ?_, fun _ => recent⟩
    · rw [new]
      exact used
    · intro name named
      rw [new]
      exact stores.own name named

theorem Fetches.last {answer : Answer} (fetches : Fetches answer before after) :
    after.answers[before.answers.length]? = some answer := by
  rw [fetches.answers]
  exact List.getElem?_concat_length

/-- What one statement is served with has a proper origin, and the session stays sound. -/
theorem Sound.serves {setup : Setup Outside} {statement : Statement}
    {outcome : Except QueryError QueryOutput} (identified : KeysIdentify uses)
    (sound : before.Sound uses puts table mark)
    (served : Serves setup uses statement before outcome after) :
    after.Sound uses puts table mark ∧
      ∀ output, outcome = .ok output → after.Origin uses puts table mark statement output := by
  cases served with
  | @hit key entry output _ used stored decoded keeps =>
      refine ⟨sound.keeps keeps, ?_⟩
      intro result same
      cases same
      rcases sound.known (key, entry) stored with given |
        ⟨index, answer, listed, value, known, _, recent⟩
      · exact .inl ⟨key, entry.value, given, used, decoded⟩
      · right
        have same : answer.statement = statement :=
          identified (key, answer.statement) known (key, statement) used rfl
        have content : answer.output = output := by
          change entry.value = _ at value
          rw [value, QueryOutput.ofJson?_toJson] at decoded
          exact Option.some.inj decoded
        have whole : answer = ⟨statement, output⟩ := by
          rw [← same, ← content]
        rw [whole] at listed recent
        exact ⟨index, by rw [keeps.answers]; exact listed, recent⟩
  | refused looked asked keeps =>
      exact ⟨(sound.keeps looked).keeps keeps, fun _ impossible => by cases impossible⟩
  | @fetched output middle answered _ looked asked fetches keeps =>
      have fetched := (sound.keeps looked).fetches fetches
      refine ⟨fetched.keeps keeps, ?_⟩
      intro result same
      cases same
      right
      refine ⟨middle.answers.length, by rw [keeps.answers]; exact fetches.last, fun _ => ?_⟩
      exact (sound.keeps looked).marked
  | @stored key output middle answered _ used looked asked fetches stores =>
      have fetched := (sound.keeps looked).fetches fetches
      have recent : mark ≤ middle.answers.length := (sound.keeps looked).marked
      refine ⟨fetched.stores stores fetches.last recent used, ?_⟩
      intro result same
      cases same
      right
      exact ⟨middle.answers.length, by rw [stores.answers]; exact fetches.last, fun _ => recent⟩

theorem Sound.servesAll {setup : Setup Outside} (identified : KeysIdentify uses)
    (served : ServesAll setup uses before after) :
    before.Sound uses puts table mark → after.Sound uses puts table mark := by
  induction served with
  | refl => exact fun sound => sound
  | step first rest ih => exact fun sound => ih (sound.serves identified first).1

/-- Once nothing stored stands under the table, the mark moves to the present. -/
theorem Sound.remark (sound : before.Sound uses puts table mark) (keeps : Keeps before after)
    (gone : ∀ kept ∈ after.entries, kept.1 ∉ before.keysFor table) :
    after.Sound uses puts table after.answers.length := by
  refine ⟨Nat.le_refl _, ?_⟩
  intro kept member
  rcases sound.known kept (keeps.entries kept member) with given |
    ⟨index, answer, listed, value, used, indexed, _⟩
  · exact .inl given
  · right
    refine ⟨index, answer, by rw [keeps.answers]; exact listed, value, used, ?_, ?_⟩
    · intro name named
      exact keeps.indexed kept member name (indexed name named)
    · intro named
      exact absurd (indexed table named) (gone kept member)

theorem Sound.receives {key : String} {value : Json} (sound : before.Sound uses puts table mark)
    (listed : (key, value) ∈ puts) (put : Puts key value before after) :
    after.Sound uses puts table mark := by
  refine ⟨by rw [put.answers]; exact sound.marked, ?_⟩
  intro kept member
  rcases put.entries kept member with old | ⟨new, held⟩
  · rcases sound.known kept old with given | ⟨index, answer, there, content, used, indexed, recent⟩
    · exact .inl given
    · right
      refine ⟨index, answer, by rw [put.answers]; exact there, content, used, ?_, recent⟩
      intro name named
      unfold keysFor
      rw [put.tables]
      exact indexed name named
  · left
    rw [new, held]
    exact listed

theorem Sound.step {setup : Setup Outside} (identified : KeysIdentify uses)
    (sound : before.Sound uses puts table mark) (step : Step Outside)
    (listed : ∀ use ∈ step.uses setup, use ∈ uses) (given : ∀ put ∈ step.puts, put ∈ puts) :
    (step.apply setup before).Sound uses puts table mark := by
  rcases Step.apply_cases setup before step listed with keeps | served | ⟨key, value, own, put⟩
  · exact sound.keeps keeps
  · exact Sound.servesAll identified served sound
  · exact sound.receives (given (key, value) own) put

theorem Sound.run {setup : Setup Outside} (identified : KeysIdentify uses)
    (steps : List (Step Outside)) (listed : ∀ step ∈ steps, ∀ use ∈ step.uses setup, use ∈ uses)
    (given : ∀ step ∈ steps, ∀ put ∈ step.puts, put ∈ puts) :
    ∀ before : Session (Site Outside), before.Sound uses puts table mark →
      (Step.run setup before steps).Sound uses puts table mark := by
  induction steps with
  | nil => exact fun before sound => sound
  | cons step rest ih =>
      intro before sound
      have next := sound.step identified step (listed step List.mem_cons_self)
        (given step List.mem_cons_self)
      exact ih (fun other member => listed other (List.mem_cons_of_mem _ member))
        (fun other member => given other (List.mem_cons_of_mem _ member)) _ next

theorem Serves.answers {setup : Setup Outside} {statement : Statement}
    {outcome : Except QueryError QueryOutput}
    (served : Serves setup uses statement before outcome after) :
    before.answers <+: after.answers := by
  cases served with
  | hit used stored decoded keeps =>
      exact keeps.answers ▸ List.prefix_rfl
  | refused looked asked keeps =>
      exact (keeps.answers.trans looked.answers) ▸ List.prefix_rfl
  | fetched looked asked fetches keeps =>
      rw [keeps.answers, fetches.answers, looked.answers]
      exact List.prefix_append _ _
  | stored used looked asked fetches stores =>
      rw [stores.answers, fetches.answers, looked.answers]
      exact List.prefix_append _ _

theorem Origin.later {statement : Statement} {output : QueryOutput}
    (origin : before.Origin uses puts table mark statement output)
    (answers : before.answers <+: after.answers) :
    after.Origin uses puts table mark statement output := by
  rcases origin with given | ⟨index, listed, recent⟩
  · exact .inl given
  · right
    obtain ⟨more, extended⟩ := answers
    have inside : index < before.answers.length := (List.getElem?_eq_some_iff.mp listed).1
    refine ⟨index, ?_, recent⟩
    rw [← extended, List.getElem?_append_left inside]
    exact listed

theorem Sound.perform {setup : Setup Outside} {Result : Type} (identified : KeysIdentify uses)
    (builder : Builder) (program : Reading Result) :
    ∀ before : Session (Site Outside), before.Sound uses puts table mark →
      (∀ asked ∈ setup.engine.trace builder program before, ∀ use,
        setup.engine.keyOf? builder asked.1 = some use → use ∈ uses) →
      before.answers <+: (setup.engine.perform builder program before).2.answers ∧
        ∀ request output,
          (request, .ok output) ∈ setup.engine.trace builder program before →
            ∃ statement fetched, builder.statementOf request = .ok statement ∧
              output = setup.engine.decrypt builder fetched ∧
              (setup.engine.perform builder program before).2.Origin uses puts table mark
                statement fetched := by
  induction program with
  | done result =>
      intro before sound listed
      exact ⟨List.prefix_rfl, fun _ _ none => by cases none⟩
  | ask request next ih =>
      intro before sound listed
      let reply := (setup.engine.read builder request).run before
      have run : (setup.engine.perform builder (.ask request next) before).2 =
          (setup.engine.perform builder (next reply.1) reply.2).2 := rfl
      have known := listed (request, reply.1) List.mem_cons_self
      have others : ∀ asked ∈ setup.engine.trace builder (next reply.1) reply.2, ∀ use,
          setup.engine.keyOf? builder asked.1 = some use → use ∈ uses :=
        fun asked member => listed asked (List.mem_cons_of_mem _ member)
      rw [run]
      rcases setup.read_serves before builder request known with ⟨error, made, refused⟩ |
        ⟨statement, outcome, made, served, replied⟩
      · have still : reply.2 = before := congrArg Prod.snd refused
        obtain ⟨grown, origins⟩ := ih reply.1 reply.2 (by rw [still]; exact sound) others
        refine ⟨by rw [still] at grown ⊢; exact grown, ?_⟩
        intro other output member
        rcases List.mem_cons.mp member with here | there
        · have failed : reply.1 = .error error := congrArg Prod.fst refused
          have same : Except.ok output = reply.1 := congrArg Prod.snd here
          rw [failed] at same
          cases same
        · exact origins other output there
      · obtain ⟨soundly, origin⟩ := sound.serves identified served
        obtain ⟨grown, origins⟩ := ih reply.1 reply.2 soundly others
        refine ⟨served.answers.trans grown, ?_⟩
        intro other output member
        rcases List.mem_cons.mp member with here | there
        · have same : Except.ok output = reply.1 := congrArg Prod.snd here
          have asked : other = request := congrArg Prod.fst here
          rw [replied] at same
          cases outcome with
          | error error => cases same
          | ok fetched =>
              cases same
              rw [asked]
              exact ⟨statement, fetched, made, rfl, (origin fetched rfl).later grown⟩
        · exact origins other output there

end Session

end BoundQuery
