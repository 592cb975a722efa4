import BoundQuery.Proofs.Transparency
import Mathlib.Data.List.Forall2
import Mathlib.Data.List.Nodup

/-!
Decryption after a read. A builder marks each field once, so that one pass over its marks decrypts
no text twice. What the store holds is what the executor has supplied and never what was shown, so
that no reader meets what was decrypted for another.
-/

set_option autoImplicit false

namespace BoundQuery

def Call.marks : Call → List String
  | .encrypt fields => fields
  | _ => []

namespace Builder

theorem markEncrypted_spec (fields : List String) : ∀ builder : Builder,
    (builder.encrypted.Nodup → (builder.markEncrypted fields).encrypted.Nodup) ∧
      ∀ field, field ∈ (builder.markEncrypted fields).encrypted ↔
        field ∈ builder.encrypted ∨ field ∈ fields := by
  induction fields with
  | nil =>
      intro builder
      refine ⟨fun distinct => distinct, fun field => ?_⟩
      rw [or_iff_left List.not_mem_nil]
      rfl
  | cons first rest ih =>
      intro builder
      by_cases known : first ∈ builder.encrypted
      · have step : builder.markEncrypted (first :: rest) = builder.markEncrypted rest := by
          simp only [markEncrypted, List.foldl_cons, List.contains_iff_mem, if_pos known]
        obtain ⟨distinct, listed⟩ := ih builder
        rw [step]
        refine ⟨distinct, fun field => ?_⟩
        rw [listed, List.mem_cons]
        grind
      · let marked : Builder := { builder with encrypted := builder.encrypted ++ [first] }
        have step : builder.markEncrypted (first :: rest) = marked.markEncrypted rest := by
          simp only [markEncrypted, List.foldl_cons, List.contains_iff_mem, if_neg known, marked]
        obtain ⟨distinct, listed⟩ := ih marked
        rw [step]
        refine ⟨fun old => distinct ?_, fun field => ?_⟩
        · exact List.nodup_append.mpr ⟨old, List.nodup_singleton first, by grind⟩
        · rw [listed, List.mem_append, List.mem_singleton, List.mem_cons, or_assoc]

theorem apply_encrypted {builder next : Builder} {call : Call}
    (accepted : builder.apply call = .ok next) :
    (builder.encrypted.Nodup → next.encrypted.Nodup) ∧
      ∀ field, field ∈ next.encrypted ↔ field ∈ builder.encrypted ∨ field ∈ call.marks := by
  have still (same : next.encrypted = builder.encrypted) (none : call.marks = []) :
      (builder.encrypted.Nodup → next.encrypted.Nodup) ∧
        ∀ field, field ∈ next.encrypted ↔ field ∈ builder.encrypted ∨ field ∈ call.marks := by
    rw [same, none]
    exact ⟨fun distinct => distinct, fun field => (or_iff_left List.not_mem_nil).symm⟩
  cases call with
  | encrypt fields =>
      cases accepted
      exact builder.markEncrypted_spec fields
  | cache options =>
      obtain ⟨_, _, further⟩ := exists_of_bind_ok accepted
      split at further
      · cases further
        exact still rfl rfl
      · cases further
        exact still rfl rfl
  | noCache =>
      cases accepted
      exact still rfl rfl
  | _ =>
      simp only [apply] at accepted
      obtain ⟨clauses, _, same⟩ := exists_of_map_ok accepted
      cases same
      exact still rfl rfl

theorem applyAll_encrypted {calls : List Call} : ∀ {builder next : Builder},
    builder.applyAll calls = .ok next →
      (builder.encrypted.Nodup → next.encrypted.Nodup) ∧
        ∀ field, field ∈ next.encrypted ↔
          field ∈ builder.encrypted ∨ field ∈ calls.flatMap Call.marks := by
  induction calls with
  | nil =>
      intro builder next accepted
      cases accepted
      exact ⟨fun distinct => distinct, fun field => (or_iff_left List.not_mem_nil).symm⟩
  | cons call rest ih =>
      intro builder next accepted
      obtain ⟨middle, first, run⟩ := applyAll_cons_ok accepted
      obtain ⟨distinct, listed⟩ := apply_encrypted first
      obtain ⟨further, others⟩ := ih run
      refine ⟨fun old => further (distinct old), fun field => ?_⟩
      rw [others, listed, List.flatMap_cons, List.mem_append, or_assoc]

end Builder

namespace Decryptor

variable (decrypt : Decryptor)

/-- A marked text that can be decrypted is shown as its plain text, any other value as it is. -/
structure Reveals (marked : Prop) (supplied shown : Json) : Prop where
  plain : ∀ stored text, marked → supplied = .string stored → decrypt stored = .ok text →
    shown = .string text
  otherwise : (¬∃ stored text, marked ∧ supplied = .string stored ∧ decrypt stored = .ok text) →
    shown = supplied

/-- Rows are shown in their order, each with its keys in their order. -/
def RevealsRows (marks : List String) : List Row → List Row → Prop :=
  List.Forall₂ (List.Forall₂ fun supplied shown =>
    shown.1 = supplied.1 ∧ decrypt.Reveals (supplied.1 ∈ marks) supplied.2 shown.2)

variable {decrypt}

theorem reveals_of_marked {marked : Prop} (holds : marked) (supplied : Json) :
    decrypt.Reveals marked supplied (decrypt.decryptValue supplied) := by
  refine ⟨?_, ?_⟩
  · intro stored text _ same decrypted
    rw [same, decryptValue, decrypted]
  · intro none
    cases supplied with
    | string stored =>
        cases decrypted : decrypt stored with
        | ok text => exact absurd ⟨stored, text, holds, rfl, decrypted⟩ none
        | error reason => rw [decryptValue, decrypted]
    | _ => rfl

theorem reveals_of_unmarked {marked : Prop} (unmarked : ¬marked) (supplied : Json) :
    decrypt.Reveals marked supplied supplied :=
  ⟨fun _ _ holds => absurd holds unmarked, fun _ => rfl⟩

theorem decryptRow_of_nodup {fields : List String} (distinct : fields.Nodup) : ∀ row : Row,
    decrypt.decryptRow fields row = row.map (fun member =>
      if member.1 ∈ fields then (member.1, decrypt.decryptValue member.2) else member) := by
  induction fields with
  | nil => exact fun row => (List.map_id' row).symm
  | cons field rest ih =>
      intro row
      obtain ⟨new, others⟩ := List.nodup_cons.mp distinct
      change decrypt.decryptRow rest (decrypt.decryptField row field) = _
      rw [ih others, decryptField, List.map_map]
      refine List.map_congr_left fun member _ => ?_
      by_cases here : member.1 = field
      · -- the field does not come again among the others, which leave its plain text alone
        simp [here, new]
      · simp [here]

theorem revealsRows {fields marks : List String} (distinct : fields.Nodup)
    (same : ∀ field, field ∈ fields ↔ field ∈ marks) (rows : List Row) :
    decrypt.RevealsRows marks rows (decrypt.decryptRows fields rows) := by
  unfold RevealsRows decryptRows
  rw [List.forall₂_map_right_iff, List.forall₂_same]
  intro row _
  rw [decryptRow_of_nodup distinct, List.forall₂_map_right_iff, List.forall₂_same]
  intro member _
  by_cases marked : member.1 ∈ fields
  · rw [if_pos marked]
    exact ⟨rfl, reveals_of_marked ((same member.1).mp marked) member.2⟩
  · rw [if_neg marked]
    exact ⟨rfl, reveals_of_unmarked (fun listed => marked ((same member.1).mpr listed)) member.2⟩

end Decryptor

/-! ### One statement through a session -/

variable {Outside : Type} {setup : Setup Outside} {statement : Statement}

/-- A step that uses keys for this statement only, and puts no value by hand. -/
structure Step.Around (setup : Setup Outside) (statement : Statement) (step : Step Outside) :
    Prop where
  uses : ∀ use ∈ step.uses setup, use.2 = statement
  puts : step.puts = []

theorem Step.around_read {builder : Builder} (own : builder.statement = .ok statement) :
    (Step.read builder .whole).Around setup statement := by
  refine ⟨fun use member => ?_, rfl⟩
  have made := Engine.statement_of_keyOf? (Option.mem_toList.mp member)
  exact (Except.ok.inj (own.symm.trans made)).symm

namespace Session

variable {before after : Session (Site Outside)} {uses : List (String × Statement)}

/-- The executor supplies an output for a statement now, or has supplied it before. -/
def Supplied (before after : Session (Site Outside)) (answer : Answer) : Prop :=
  after.answers = before.answers ++ [answer] ∨
    after.answers = before.answers ∧ answer ∈ before.answers

/-- Nothing is put by hand, so a statement gets what the executor supplies for it. -/
theorem Sound.supplied {table : String} {mark : Nat} {outcome : Except QueryError QueryOutput}
    (identified : KeysIdentify uses) (sound : before.Sound uses [] table mark)
    (served : Serves setup uses statement before outcome after) :
    (∃ error middle, outcome = .error error ∧
        ((setup.engine.runQuery statement).run middle).1 = .error error) ∨
      ∃ output, outcome = .ok output ∧ before.Supplied after ⟨statement, output⟩ := by
  have origin := (sound.serves identified served).2
  cases served with
  | @hit key entry output _ used stored decoded keeps =>
      right
      rcases origin output rfl with ⟨_, _, none, _⟩ | ⟨index, listed, _⟩
      · cases none
      · refine ⟨output, rfl, .inr ⟨keeps.answers, ?_⟩⟩
        rw [keeps.answers] at listed
        exact List.mem_of_getElem? listed
  | @refused error middle _ looked asked keeps => exact .inl ⟨error, middle, rfl, asked⟩
  | @fetched output middle answered _ looked asked fetches keeps =>
      right
      refine ⟨output, rfl, .inl ?_⟩
      rw [keeps.answers, fetches.answers, looked.answers]
  | @stored key output middle answered _ used looked asked fetches stores =>
      right
      refine ⟨output, rfl, .inl ?_⟩
      rw [stores.answers, fetches.answers, looked.answers]

end Session

/-- Whoever has read a statement before, and with whatever marks: a reader is shown the rows that
the executor supplies for it, with the texts of its own marks decrypted once. It gets an error only
from the executor. -/
theorem fields_are_decrypted_once (setup : Setup Outside) (decrypt : Decryptor)
    (decrypts : setup.decryptor = some decrypt) (outside : Outside) (capacity : Nat)
    (defaultTtl : Option Nat) (statement : Statement) (earlier : List (Step Outside))
    (around : ∀ step ∈ earlier, step.Around setup statement) (calls : List Call)
    (builder : Builder) (made : setup.engine.query.applyAll calls = .ok builder)
    (own : builder.statement = .ok statement) :
    let before := Step.run setup (Setup.opening outside capacity defaultTtl) earlier
    let after := ((setup.engine.get builder).run before).2
    (∃ error middle, ((setup.engine.get builder).run before).1 = .error error ∧
        ((setup.engine.runQuery statement).run middle).1 = .error error) ∨
      ∃ supplied shown, before.Supplied after ⟨statement, supplied⟩ ∧
        ((setup.engine.get builder).run before).1 = .ok shown ∧
          decrypt.RevealsRows (calls.flatMap Call.marks) supplied.rows shown := by
  intro before after
  let uses := earlier.flatMap (Step.uses setup) ++
    (setup.engine.keyOf? builder .whole).toList
  have single : ∀ use ∈ uses, builder.statement = .ok use.2 := by
    intro use member
    rcases List.mem_append.mp member with early | late
    · obtain ⟨step, listed, used⟩ := List.mem_flatMap.mp early
      rw [(around step listed).uses use used]
      exact own
    · exact Engine.statement_of_keyOf? (Option.mem_toList.mp late)
  have identified : KeysIdentify uses := keysIdentify_of_single single
  have listed : ∀ step ∈ earlier, ∀ use ∈ step.uses setup, use ∈ uses :=
    fun step member use used => List.mem_append_left _ (List.mem_flatMap.mpr ⟨step, member, used⟩)
  have given : ∀ step ∈ earlier, ∀ put ∈ step.puts, put ∈ ([] : List (String × Json)) := by
    intro step member put listed
    rw [(around step member).puts] at listed
    exact listed
  have sound : before.Sound uses [] "" 0 :=
    Session.Sound.run identified earlier listed given _ (Session.Sound.opening _ _ _)
  have known : ∀ use, setup.engine.keyOf? builder .whole = some use → use ∈ uses :=
    fun use found => List.mem_append_right _ (Option.mem_toList.mpr found)
  have fetched : (setup.engine.get builder).run before =
      (((setup.engine.read builder .whole).run before).1.map QueryOutput.rows,
        ((setup.engine.read builder .whole).run before).2) := by
    rw [Engine.get_eq_read, Action.run_map]
  have there : after = ((setup.engine.read builder .whole).run before).2 :=
    congrArg Prod.snd fetched
  rw [there, fetched]
  rcases setup.read_serves before builder .whole known with ⟨error, refused, _⟩ |
    ⟨same, outcome, compiled, served, replied⟩
  · cases own.symm.trans refused
  · obtain rfl : statement = same := Except.ok.inj (own.symm.trans compiled)
    rw [replied]
    rcases sound.supplied identified served with ⟨error, middle, failed, asked⟩ |
      ⟨output, answered, supplied⟩
    · subst failed
      exact .inl ⟨error, middle, rfl, asked⟩
    · subst answered
      right
      refine ⟨output, _, supplied, rfl, ?_⟩
      obtain ⟨distinct, marked⟩ := Builder.applyAll_encrypted made
      have shown : (setup.engine.decrypt builder output).rows =
          decrypt.decryptRows builder.encrypted output.rows := by
        unfold Engine.decrypt Setup.engine
        rw [decrypts]
      rw [shown]
      refine Decryptor.revealsRows (distinct List.nodup_nil) (fun field => ?_) output.rows
      rw [marked]
      exact or_iff_right List.not_mem_nil

/-- A decryptor that would undo itself if it were applied to its own output. -/
def reversing : Decryptor :=
  fun stored => .ok (String.ofList stored.toList.reverse)

def sealedSetup : Setup Unit :=
  { clock := fun _ => 0
    executor :=
      { query := fun _ _ outside =>
          (.ok {
            rows := [[("email", .string "ue.t@ada"), ("name", .string "adA")]], rowCount := 1 },
          outside)
        execute := fun _ _ outside => (.ok {}, outside) }
    profile := Dialect.sqlite.profile
    decryptor := some reversing }

def peopleStatement : Statement :=
  ⟨"SELECT * FROM \"users\"", []⟩

def mailReader : List Call :=
  [.readFrom "users", .cache { key := some "people" }, .encrypt ["email"]]

def nameReader : List Call :=
  [.readFrom "users", .encrypt ["name", "name"], .cache { key := some "people" },
    .encrypt ["name"]]

/-- The second reader is served from the store, and sees the mail as it was supplied. -/
theorem names_are_decrypted_once :
    ∃ mails names, sealedSetup.engine.query.applyAll mailReader = .ok mails ∧
      sealedSetup.engine.query.applyAll nameReader = .ok names ∧
      let before := Step.run sealedSetup (Setup.opening () 4 none) [.read mails .whole]
      ∃ supplied shown, before.Supplied ((sealedSetup.engine.get names).run before).2 supplied ∧
        ((sealedSetup.engine.get names).run before).1 = .ok shown ∧
          reversing.RevealsRows ["name", "name", "name"] supplied.output.rows shown := by
  have first : (sealedSetup.engine.query.applyAll mailReader).bind Builder.statement =
      .ok peopleStatement := rfl
  have second : (sealedSetup.engine.query.applyAll nameReader).bind Builder.statement =
      .ok peopleStatement := rfl
  obtain ⟨mails, reached, sent⟩ := exists_of_bind_ok first
  obtain ⟨names, made, own⟩ := exists_of_bind_ok second
  refine ⟨mails, names, reached, made, ?_⟩
  have around : ∀ step ∈ [Step.read mails .whole], step.Around sealedSetup peopleStatement := by
    intro step member
    rw [List.mem_singleton.mp member]
    exact Step.around_read sent
  rcases fields_are_decrypted_once sealedSetup reversing rfl () 4 none peopleStatement
      [.read mails .whole] around nameReader names made own with
    ⟨error, middle, _, asked⟩ | ⟨supplied, shown, given, run, reveals⟩
  · cases asked
  · exact ⟨_, shown, given, run, reveals⟩

example : ((sealedSetup.engine.query.applyAll mailReader).bind fun mails =>
    (sealedSetup.engine.query.applyAll nameReader).bind fun names =>
      let before := Step.run sealedSetup (Setup.opening () 4 none) [.read mails .whole]
      ((sealedSetup.engine.get names).run before).1) =
    .ok [[("email", .string "ue.t@ada"), ("name", .string "Ada")]] := rfl

end BoundQuery
