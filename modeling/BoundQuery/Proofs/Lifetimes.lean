import BoundQuery.Proofs.Operations
import BoundQuery.Proofs.Outage
import Mathlib.Algebra.Ring.Int.Defs

/-!
How long a stored result lives. Until its lifetime is over, every read of its key is a hit that
gives it and changes nothing but the count of hits; from that instant on a read is a miss and sends
its statement.
-/

set_option autoImplicit false

namespace BoundQuery

namespace Setup

variable {Outside : Type} {setup : Setup Outside} {session : Session (Site Outside)}
variable {builder : Builder} {request : Request} {key : String} {statement : Statement}

theorem read_of_found (keyed : setup.engine.keyOf? builder request = some (key, statement))
    {value : Json} {output : QueryOutput}
    (found : (session.world.store.get (setup.clock session.world.outside) key).1 = some value)
    (decoded : QueryOutput.ofJson? value = some output) :
    (setup.engine.read builder request).run session =
      (.ok (setup.engine.decrypt builder output),
        { session with cache :=
          { session.cache with stats := session.cache.stats.countHit } }) := by
  obtain ⟨_, _, _, _, unchanged⟩ := MemoryCache.get_found found
  have looked : setup.cache.adapter.get key session.world = (.ok (some value), session.world) := by
    change (Except.ok (session.world.store.get (setup.clock session.world.outside) key).1,
      { session.world with
        store := (session.world.store.get (setup.clock session.world.outside) key).2 }) = _
    rw [unchanged]
  have run := Engine.read_through rfl keyed session
  rw [setup.cache.get_of_found session key looked decoded] at run
  exact run

theorem read_of_missing (keyed : setup.engine.keyOf? builder request = some (key, statement))
    (missing : ∀ value,
      (session.world.store.get (setup.clock session.world.outside) key).1 = some value →
        QueryOutput.ofJson? value = none) :
    let after := ((setup.engine.read builder request).run session).2
    setup.Asks builder request statement session ∧
      after.cache.stats.hits = session.cache.stats.hits ∧
      after.cache.stats.misses = session.cache.stats.misses + 1 := by
  have looked : setup.cache.adapter.get key session.world =
      (.ok (session.world.store.get (setup.clock session.world.outside) key).1,
        { session.world with
          store := (session.world.store.get (setup.clock session.world.outside) key).2 }) := rfl
  obtain ⟨state, _, missed⟩ := setup.cache.get_of_missing session key looked
    (fun value found => missing value (Except.ok.inj found))
  refine ⟨asks_of_missed setup session keyed missed, ?_⟩
  rcases Engine.read_records rfl keyed missed with same | same
  · rw [same]
    exact ⟨rfl, rfl⟩
  · rw [same]
    exact ⟨rfl, rfl⟩

theorem read_uncounted (keyless : setup.engine.keyOf? builder request = none) :
    ((setup.engine.read builder request).run session).2.cache.stats = session.cache.stats := by
  cases made : builder.statementOf request with
  | error error => rw [read_refused setup session made]
  | ok statement =>
      rw [Engine.read_unkeyed made keyless, Action.run_bind_pure]
      rfl

end Setup

/-! ### The reads of a session -/

variable {World : Type}

/-- The setup with a record of what is sent. -/
def Setup.recorded (setup : Setup World) : Setup (Logged World) :=
  { clock := fun logged => setup.clock logged.world
    executor := setup.executor.logged
    profile := setup.profile
    config := setup.config
    caching := setup.caching
    decryptor := setup.decryptor }

/-- What a read adds to the counts of hits and misses, and how many statements it sends. -/
structure Tally where
  hits : Int
  misses : Int
  calls : Int
deriving DecidableEq

namespace Tally

def between (before after : Session (Site (Logged World))) : Tally :=
  ⟨after.cache.stats.hits - before.cache.stats.hits,
    after.cache.stats.misses - before.cache.stats.misses,
    after.world.outside.sent.length - before.world.outside.sent.length⟩

def hit : Tally := ⟨1, 0, 0⟩

def miss : Tally := ⟨0, 1, 1⟩

theorem between_eq {before after : Session (Site (Logged World))} {hits misses calls : Nat}
    (found : after.cache.stats.hits = before.cache.stats.hits + hits)
    (missed : after.cache.stats.misses = before.cache.stats.misses + misses)
    (sent : after.world.outside.sent.length = before.world.outside.sent.length + calls) :
    between before after = ⟨hits, misses, calls⟩ := by
  unfold between
  rw [found, missed, sent, Tally.mk.injEq]
  omega

end Tally

/-- The reads of a run: whether each goes through the cache, and what it adds. -/
def Step.tallies (setup : Setup World) :
    Session (Site (Logged World)) → List (Step (Logged World)) → List (Bool × Tally)
  | _, [] => []
  | session, step :: rest =>
      let after := step.apply setup.recorded session
      match step with
      | .read builder request =>
          ((setup.recorded.engine.keyOf? builder request).isSome, Tally.between session after) ::
            tallies setup after rest
      | _ => tallies setup after rest

namespace Setup

variable {setup : Setup World} {session : Session (Site (Logged World))}
variable {builder : Builder} {request : Request} {key : String} {statement : Statement}

theorem tally_of_found
    (keyed : setup.recorded.engine.keyOf? builder request = some (key, statement))
    {value : Json} {output : QueryOutput}
    (found : (session.world.store.get (setup.recorded.clock session.world.outside) key).1 =
      some value)
    (decoded : QueryOutput.ofJson? value = some output) :
    Tally.between session ((setup.recorded.engine.read builder request).run session).2 =
      Tally.hit := by
  rw [read_of_found keyed found decoded]
  exact Tally.between_eq rfl rfl rfl

theorem tally_of_missing
    (keyed : setup.recorded.engine.keyOf? builder request = some (key, statement))
    (missing : ∀ value,
      (session.world.store.get (setup.recorded.clock session.world.outside) key).1 =
          some value →
        QueryOutput.ofJson? value = none) :
    Tally.between session ((setup.recorded.engine.read builder request).run session).2 =
      Tally.miss := by
  obtain ⟨asks, hits, misses⟩ := read_of_missing keyed missing
  refine Tally.between_eq hits misses ?_
  rw [asks.outside]
  exact List.length_append

theorem tally_of_cached
    (keyed : setup.recorded.engine.keyOf? builder request = some (key, statement)) :
    Tally.between session ((setup.recorded.engine.read builder request).run session).2 =
        Tally.hit ∨
      Tally.between session ((setup.recorded.engine.read builder request).run session).2 =
        Tally.miss := by
  rcases QueryOutput.decoded_or_missing (fun value =>
      (session.world.store.get (setup.recorded.clock session.world.outside) key).1 =
        some value) with
    ⟨value, output, held, decoded⟩ | missing
  · exact .inl (tally_of_found keyed held decoded)
  · exact .inr (tally_of_missing keyed missing)

theorem tally_counted (setup : Setup World) (session : Session (Site (Logged World)))
    (builder : Builder) (request : Request) :
    let tally :=
      Tally.between session ((setup.recorded.engine.read builder request).run session).2
    tally.hits + tally.misses =
      if (setup.recorded.engine.keyOf? builder request).isSome then 1 else 0 := by
  cases keyed : setup.recorded.engine.keyOf? builder request with
  | none =>
      dsimp only [Tally.between]
      rw [read_uncounted keyed, Int.sub_self, Int.sub_self]
      rfl
  | some use =>
      have once : Tally.between session
          ((setup.recorded.engine.read builder request).run session).2 = Tally.hit ∨ _ :=
        tally_of_cached keyed
      rcases once with hit | miss
      · rw [hit]
        rfl
      · rw [miss]
        rfl

end Setup

theorem Step.tallies_cached (setup : Setup World) (steps : List (Step (Logged World))) :
    ∀ session, ∀ tally ∈ Step.tallies setup session steps, tally.1 = true →
      tally.2 = Tally.hit ∨ tally.2 = Tally.miss := by
  induction steps with
  | nil =>
      intro session tally none
      cases none
  | cons step rest ih =>
      intro session tally member cached
      have further := ih (step.apply setup.recorded session) tally
      cases step with
      | read builder request =>
          rcases List.mem_cons.mp member with here | there
          · rw [here] at cached ⊢
            obtain ⟨⟨key, statement⟩, keyed⟩ := Option.isSome_iff_exists.mp cached
            exact setup.tally_of_cached keyed
          · exact further there cached
      | _ => exact further member cached

/-- Each read through the cache is counted once, and no other read is. -/
theorem Step.tallies_counted (setup : Setup World) (steps : List (Step (Logged World))) :
    ∀ session, ((Step.tallies setup session steps).map
        (fun tally => tally.2.hits + tally.2.misses)).sum =
      (Step.tallies setup session steps).countP Prod.fst := by
  induction steps with
  | nil => exact fun _ => rfl
  | cons step rest ih =>
      intro session
      have further := ih (step.apply setup.recorded session)
      cases step with
      | read builder request =>
          have counted := setup.tally_counted session builder request
          unfold Step.tallies
          rw [List.map_cons, List.sum_cons, List.countP_cons, further]
          dsimp only [Step.apply] at counted ⊢
          rw [counted]
          split
          · omega
          · omega
      | _ => exact further

theorem Setup.Allows.recorded {setup : Setup World} (onward : setup.Allows setup.Onward) :
    setup.recorded.Allows setup.recorded.Onward :=
  ⟨fun sql bindings logged => onward.query sql bindings logged.world,
    fun sql bindings logged => onward.execute sql bindings logged.world⟩

/-- In a session that never stores under more keys than there is room for, while the clock is never
turned back, a result that was stored last under a key is what every read of the key gives before
its lifetime is over, at one hit, without a statement sent and with nothing else changed; from then
on a read is one miss and sends one statement. And in any session the hits and misses of reads are
as many as the reads through the cache, each of which sends a statement just when it is a miss. -/
theorem stored_results_live_their_lifetime (setup : Setup World) (world : World) (capacity : Nat)
    (defaultTtl : Option Nat) (steps : List (Step (Logged World)))
    (onward : setup.Allows setup.Onward)
    (allowed : ∀ step ∈ steps, step.Allowed setup.recorded.Onward)
    (room : (Event.storedKeys (Step.eventsOf setup.recorded
      (Setup.opening ⟨world, []⟩ capacity defaultTtl) steps)).card ≤ capacity) :
    let start := Setup.opening ⟨world, []⟩ capacity defaultTtl
    let reached := Step.run setup.recorded start steps
    let now := setup.recorded.clock reached.world.outside
    (∀ key statement output time lifetime,
      Event.last? key (Step.eventsOf setup.recorded start steps) =
        some (.stored key (.result statement output) time lifetime) →
      ∀ builder request own,
        setup.recorded.engine.keyOf? builder request = some (key, own) →
          (now < time + lifetime →
            (setup.recorded.engine.read builder request).run reached =
              (.ok (setup.recorded.engine.decrypt builder output),
                { reached with cache :=
                  { reached.cache with stats := reached.cache.stats.countHit } })) ∧
          (time + lifetime ≤ now →
            Tally.between reached
              ((setup.recorded.engine.read builder request).run reached).2 = Tally.miss)) ∧
    ((Step.tallies setup start steps).map (fun tally => tally.2.hits + tally.2.misses)).sum =
      (Step.tallies setup start steps).countP Prod.fst ∧
    ∀ tally ∈ Step.tallies setup start steps, tally.1 = true →
      tally.2 = Tally.hit ∨ tally.2 = Tally.miss := by
  intro start reached now
  refine ⟨?_, Step.tallies_counted setup steps start, Step.tallies_cached setup steps start⟩
  intro key statement output time lifetime last builder request own keyed
  have moves := Step.run_moves onward.recorded start allowed
  let entry : MemoryEntry := ⟨output.toJson, time, some (time + lifetime)⟩
  constructor
  · intro early
    have live : entry.isLive now = true := decide_eq_true early
    have roomy := moves.roomy subset_rfl (MemoryCache.Roomy.empty defaultTtl room)
    have left : Event.Leaves (Step.eventsOf setup.recorded start steps)
        start.world.store.entries (key, entry) := by
      unfold Event.Leaves
      rw [last]
      rfl
    have stored : (key, entry) ∈ reached.world.store.entries :=
      moves.lasts subset_rfl (MemoryCache.Roomy.empty defaultTtl room) (key, entry) left live
    have found := roomy.get_of_live stored live
    exact Setup.read_of_found keyed (congrArg Prod.fst found) (QueryOutput.ofJson?_toJson output)
  · intro late
    -- There may be nothing under the key any more; if there is, it is what was stored last.
    have ended : ∀ other, (key, other) ∈ reached.world.store.entries →
        other.isLive now = false := by
      intro other member
      have left := moves.traces (key, other) member
      unfold Event.Leaves at left
      rw [last] at left
      have same : other = entry := (Option.some.inj left).symm
      rw [same]
      exact decide_eq_false (Nat.not_lt.mpr late)
    have none := MemoryCache.get_of_ended ended
    apply Setup.tally_of_missing keyed
    intro value found
    rw [none] at found
    cases found

/-- When a result was stored, and for how long. -/
def Event.resultSpan? : Event → Option (Nat × Nat)
  | .stored _ (.result _ _) time lifetime => some (time, lifetime)
  | _ => none

theorem Event.exists_result_of_span {key : String} {events : List Event} {time lifetime : Nat}
    (span : (Event.last? key events).bind Event.resultSpan? = some (time, lifetime)) :
    ∃ statement output, Event.last? key events =
      some (.stored key (.result statement output) time lifetime) := by
  obtain ⟨event, last, spanned⟩ := Option.bind_eq_some_iff.mp span
  cases event with
  | stored own content start length =>
      rw [Event.key_of_last? last] at last
      cases content with
      | result statement output =>
          cases spanned
          exact ⟨statement, output, last⟩
      | value json => cases spanned
  | dropped own => cases spanned
  | cleared => cases spanned

def tickingSetup : Setup Nat :=
  { clock := id
    executor :=
      { query := fun _ _ now =>
          (.ok { rows := [[("name", .string "Ada")]], rowCount := 1 }, now + 1)
        execute := fun _ _ now => (.ok {}, now) }
    profile := Dialect.sqlite.profile }

def briefRankingCalls : List Call :=
  [.readFrom "users", .cache { ttl := some 20, key := some "ranking" }]

def readAndWait (builder : Builder) (ticks : Nat) : List (Step (Logged Nat)) :=
  [.read builder .whole, .outside (fun logged => { logged with world := logged.world + ticks })]

/-- What was stored at the first tick is there at the twentieth and gone at the next. -/
theorem ranking_lives_twenty_ticks :
    ∃ builder, tickingSetup.engine.query.applyAll briefRankingCalls = .ok builder ∧
      let start := Setup.opening ⟨0, []⟩ 1 none
      let early := Step.run tickingSetup.recorded start (readAndWait builder 19)
      let late := Step.run tickingSetup.recorded start (readAndWait builder 20)
      Tally.between early ((tickingSetup.recorded.engine.read builder .whole).run early).2 =
          Tally.hit ∧
        Tally.between late ((tickingSetup.recorded.engine.read builder .whole).run late).2 =
          Tally.miss := by
  let start : Session (Site (Logged Nat)) := Setup.opening ⟨0, []⟩ 1 none
  have facts : (do
      let builder ← tickingSetup.engine.query.applyAll briefRankingCalls
      let events := Step.eventsOf tickingSetup.recorded start [.read builder .whole]
      pure ((tickingSetup.recorded.engine.keyOf? builder .whole).map Prod.fst,
        (Step.run tickingSetup.recorded start [.read builder .whole]).world.outside.world,
        events.filterMap Event.storedKey?,
        (Event.last? "ranking" events).bind Event.resultSpan?)).toOption =
      some (some "ranking", 1, ["ranking"], some (1, 20)) := by decide +kernel
  obtain ⟨builder, reached, last⟩ := exists_of_bind_ok (ok_of_toOption facts)
  obtain ⟨keyed, further⟩ := Prod.mk.inj (Except.ok.inj last)
  obtain ⟨clock, further⟩ := Prod.mk.inj further
  obtain ⟨keys, span⟩ := Prod.mk.inj further
  obtain ⟨⟨key, own⟩, read, same⟩ := Option.map_eq_some_iff.mp keyed
  change key = "ranking" at same
  subst same
  obtain ⟨statement, output, held⟩ := Event.exists_result_of_span span
  have onward : tickingSetup.Allows tickingSetup.Onward :=
    ⟨fun _ _ now => Nat.le_succ now, fun _ _ now => Nat.le_refl now⟩
  have allowed (ticks : Nat) : ∀ step ∈ readAndWait builder ticks,
      step.Allowed tickingSetup.recorded.Onward := by
    intro step member
    rcases List.mem_cons.mp member with here | there
    · rw [here]
      trivial
    · rw [List.mem_singleton.mp there]
      exact fun logged => Nat.le_add_right logged.world ticks
  have room (ticks : Nat) : (Event.storedKeys (Step.eventsOf tickingSetup.recorded
      (Setup.opening ⟨0, []⟩ 1 none) (readAndWait builder ticks))).card ≤ 1 := by
    change (List.toFinset (List.filterMap Event.storedKey? (Step.eventsOf tickingSetup.recorded
      (Setup.opening ⟨0, []⟩ 1 none) [.read builder .whole]))).card ≤ 1
    rw [keys]
    decide
  have now (ticks : Nat) : (Step.run tickingSetup.recorded (Setup.opening ⟨0, []⟩ 1 none)
      (readAndWait builder ticks)).world.outside.world = 1 + ticks := by
    exact congrArg (· + ticks) clock
  refine ⟨builder, reached, ?_, ?_⟩
  · have law := stored_results_live_their_lifetime tickingSetup 0 1 none (readAndWait builder 19)
      onward (allowed 19) (room 19)
    have alive := (law.1 "ranking" statement output 1 20 held builder .whole own read).1
      ((now 19).trans_lt (by omega))
    rw [alive]
    exact Tally.between_eq rfl rfl rfl
  · have law := stored_results_live_their_lifetime tickingSetup 0 1 none (readAndWait builder 20)
      onward (allowed 20) (room 20)
    refine (law.1 "ranking" statement output 1 20 held builder .whole own read).2 ?_
    exact (now 20).ge

end BoundQuery
