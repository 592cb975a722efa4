import BoundQuery.Proofs.Deposits
import BoundQuery.Proofs.ReadThrough

/-!
How far the invalidation of a tag reaches. It drops each result that was last stored with the tag,
whoever reads it later; a result that was last stored without the tag stays, also for those who
would have given it the tag.
-/

set_option autoImplicit false

namespace BoundQuery

variable {Outside : Type}

/-- The read calls the executor: it gives what the executor answers, and leaves the world outside as
the executor leaves it. -/
structure Setup.Asks (setup : Setup Outside) (builder : Builder) (request : Request)
    (statement : Statement) (session : Session (Site Outside)) : Prop where
  outcome : ((setup.engine.read builder request).run session).1 =
    ((setup.executor.query statement.sql statement.bindings session.world.outside).1.mapError
      (fun error => error.attachStatement statement.sql statement.bindings)).map
        (setup.engine.decrypt builder)
  outside : ((setup.engine.read builder request).run session).2.world.outside =
    (setup.executor.query statement.sql statement.bindings session.world.outside).2

namespace Setup

variable (setup : Setup Outside) (session : Session (Site Outside))

theorem get_outside {Item : Type} (decode? : Json → Option Item) (key : String) :
    (setup.cache.get decode? key session).2.world.outside = session.world.outside := by
  rw [ResultCache.get_world]
  rfl

theorem storeOutput_outside (statement : Statement) (directive : CacheDirective)
    (output : QueryOutput) :
    (setup.cache.storeOutput statement directive output session).2.world.outside =
      session.world.outside := by
  unfold ResultCache.storeOutput
  split
  · rfl
  · rfl

variable {builder : Builder} {request : Request} {key : String} {statement : Statement}

theorem asks_of_missed (keyed : setup.engine.keyOf? builder request = some (key, statement))
    {missed : Session (Site Outside)}
    (looked : setup.cache.get QueryOutput.ofJson? key session = (none, missed)) :
    setup.Asks builder request statement session := by
  have still := get_outside setup session QueryOutput.ofJson? key
  have run := Engine.read_through rfl keyed session
  rw [looked] at still run
  dsimp only at still run
  have replied : ((setup.engine.runQuery statement).run missed).1 =
      (setup.executor.query statement.sql statement.bindings missed.world.outside).1.mapError
        (fun error => error.attachStatement statement.sql statement.bindings) := rfl
  have moved : ((setup.engine.runQuery statement).run missed).2.world.outside =
      (setup.executor.query statement.sql statement.bindings missed.world.outside).2 := rfl
  rw [still] at replied moved
  cases ran : (setup.engine.runQuery statement).run missed with
  | mk outcome after =>
      rw [ran] at run replied moved
      constructor
      · rw [run, ← replied]
        cases outcome with
        | error error => rfl
        | ok output => rfl
      · rw [run]
        cases outcome with
        | error error => exact moved
        | ok output => exact (storeOutput_outside setup after statement _ output).trans moved

/-- A read through the cache is answered from an entry of its key, or calls the executor. -/
theorem asks_or_hits (cached : setup.engine.keyOf? builder request = some (key, statement)) :
    setup.Asks builder request statement session ∨ ∃ entry, (key, entry) ∈ session.entries := by
  obtain ⟨_, held⟩ := get_spec setup session QueryOutput.ofJson? key
  cases ran : setup.cache.get QueryOutput.ofJson? key session with
  | mk found missed =>
      rw [ran] at held
      cases found with
      | some output =>
          obtain ⟨entry, stored, _⟩ := held output rfl
          exact .inr ⟨entry, stored⟩
      | none => exact .inl (asks_of_missed setup session cached ran)

end Setup

/-- After a tag has been invalidated, a read through the cache calls the executor, unless something
has been stored under its key since, or what was last stored there before did not have the tag. -/
theorem tag_invalidation_reaches_tagged_entries (setup : Setup Outside) (outside : Outside)
    (capacity : Nat) (defaultTtl : Option Nat) (earlier later : List (Step Outside))
    (target : Invalidation) (tag : String)
    (named : ∃ name ∈ target.tags, Text.lower name = Text.lower tag)
    (builder : Builder) (request : Request) (key : String) (statement : Statement)
    (cached : setup.engine.keyOf? builder request = some (key, statement)) :
    let start := Setup.opening outside capacity defaultTtl
    let renewed := Step.run setup start (earlier ++ [.invalidate target])
    setup.Asks builder request statement (Step.run setup renewed later) ∨
      (∃ deposit ∈ Step.depositsOf setup renewed later, deposit.key = key) ∨
      ∃ deposit, Deposit.last? key (Step.depositsOf setup start earlier) = some deposit ∧
        ∀ own ∈ deposit.tags, Text.lower own ≠ Text.lower tag := by
  intro start renewed
  let marked := Step.run setup start earlier
  have opened : renewed = (setup.cache.invalidate target marked).2 :=
    Step.run_append setup earlier [.invalidate target] start
  rcases setup.asks_or_hits (Step.run setup renewed later) cached with asks | ⟨entry, stored⟩
  · exact .inl asks
  · right
    have before := Step.run_files setup earlier start
    have since := Step.run_files setup later renewed
    obtain ⟨keeps, gone⟩ := setup.invalidate_tags marked target
    rw [← opened] at keeps gone
    cases recent : Deposit.last? key (Step.depositsOf setup renewed later) with
    | some deposit =>
        left
        obtain ⟨member, same⟩ := Deposit.mem_of_last? recent
        exact ⟨deposit, member, same⟩
    | none =>
        right
        have stayed := (since.old (key, entry) stored recent).1
        have there : (key, entry) ∈ marked.entries := keeps.entries (key, entry) stayed
        cases last : Deposit.last? key (Step.depositsOf setup start earlier) with
        | none =>
            have none := (before.old (key, entry) there last).1
            cases none
        | some deposit =>
            refine ⟨deposit, rfl, ?_⟩
            intro own carried same
            obtain ⟨name, listed, alike⟩ := named
            have indexed := before.new (key, entry) there deposit last own carried
            exact gone (key, entry) stayed own name listed (same.trans alike.symm) indexed

def countingSetup : Setup Nat :=
  { clock := fun _ => 0
    executor :=
      { query := fun _ _ count =>
          (.ok { rows := [[("name", .string "Ada")]], rowCount := 1 }, count + 1)
        execute := fun _ _ count => (.ok {}, count) }
    profile := Dialect.sqlite.profile }

def rankingCalls (tags : List String) : List Call :=
  [.readFrom "users", .cache { key := some "ranking", tags := tags }]

/-- A builder without the tag has read the result in between. -/
theorem tag_invalidation_reaches_ranking :
    ∃ tagged plain statement,
      countingSetup.engine.query.applyAll (rankingCalls ["Reports"]) = .ok tagged ∧
      countingSetup.engine.query.applyAll (rankingCalls []) = .ok plain ∧
      countingSetup.Asks tagged .whole statement
        (Step.run countingSetup (Setup.opening 0 2 none)
          [.read tagged .whole, .read plain .whole, .invalidate { tags := ["reports"] }]) := by
  have facts : (do
      let tagged ← countingSetup.engine.query.applyAll (rankingCalls ["Reports"])
      let plain ← countingSetup.engine.query.applyAll (rankingCalls [])
      pure ((countingSetup.engine.keyOf? tagged .whole).map Prod.fst,
        Step.depositsOf countingSetup (Setup.opening 0 2 none)
          [.read tagged .whole, .read plain .whole])).toOption =
      some (some "ranking", [⟨"ranking", ["Reports"]⟩]) := by decide +kernel
  obtain ⟨tagged, first, further⟩ := exists_of_bind_ok (ok_of_toOption facts)
  obtain ⟨plain, second, last⟩ := exists_of_bind_ok further
  obtain ⟨keyed, filed⟩ := Prod.mk.inj (Except.ok.inj last)
  obtain ⟨⟨key, statement⟩, cached, own⟩ := Option.map_eq_some_iff.mp keyed
  refine ⟨tagged, plain, statement, first, second, ?_⟩
  have reached := tag_invalidation_reaches_tagged_entries countingSetup 0 2 none
    [.read tagged .whole, .read plain .whole] [] { tags := ["reports"] } "Reports"
    ⟨"reports", List.mem_cons_self, by decide +kernel⟩ tagged .whole key statement cached
  rcases reached with asks | ⟨deposit, none, _⟩ | ⟨deposit, last, untagged⟩
  · exact asks
  · cases none
  · rw [filed] at last
    obtain ⟨member, _⟩ := Deposit.mem_of_last? last
    rw [List.mem_singleton.mp member] at untagged
    exact absurd rfl (untagged "Reports" List.mem_cons_self)

/-- What was stored without a tag outlives the invalidation of the tag, also for a builder that has
it and has read the result before. -/
theorem untagged_result_outlives_tag :
    ∃ plain tagged, countingSetup.engine.query.applyAll (rankingCalls []) = .ok plain ∧
      countingSetup.engine.query.applyAll (rankingCalls ["reports"]) = .ok tagged ∧
      tagged.directive.tags = ["reports"] ∧
      ∀ statement, ¬countingSetup.Asks tagged .whole statement
        (Step.run countingSetup (Setup.opening 0 2 none)
          [.read plain .whole, .read tagged .whole, .invalidate { tags := ["reports"] }]) := by
  have facts : (do
      let plain ← countingSetup.engine.query.applyAll (rankingCalls [])
      let tagged ← countingSetup.engine.query.applyAll (rankingCalls ["reports"])
      pure (tagged.directive.tags,
        (Step.run countingSetup (Setup.opening 0 2 none)
          [.read plain .whole, .read tagged .whole,
            .invalidate { tags := ["reports"] }]).world.outside,
        (Step.run countingSetup (Setup.opening 0 2 none)
          [.read plain .whole, .read tagged .whole, .invalidate { tags := ["reports"] },
            .read tagged .whole]).world.outside)).toOption =
      some (["reports"], 1, 1) := by decide +kernel
  obtain ⟨plain, first, further⟩ := exists_of_bind_ok (ok_of_toOption facts)
  obtain ⟨tagged, second, last⟩ := exists_of_bind_ok further
  obtain ⟨tags, counts⟩ := Prod.mk.inj (Except.ok.inj last)
  obtain ⟨before, after⟩ := Prod.mk.inj counts
  refine ⟨plain, tagged, first, second, tags, ?_⟩
  intro statement asks
  have counted := asks.outside
  change (Step.run countingSetup (Setup.opening 0 2 none)
    [.read plain .whole, .read tagged .whole, .invalidate { tags := ["reports"] },
      .read tagged .whole]).world.outside = (Step.run countingSetup
        (Setup.opening 0 2 none) [.read plain .whole, .read tagged .whole,
          .invalidate { tags := ["reports"] }]).world.outside + 1 at counted
  rw [before, after] at counted
  cases counted

end BoundQuery
