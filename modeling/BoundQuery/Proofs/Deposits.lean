import BoundQuery.Proofs.Transparency

/-!
What is stored under which key, and with which tags. A result is stored after a miss or ahead of its
first read, with the tags of the builder that asked for it; a value put by hand has none. Each
stored entry stands under all the tags that its key was last stored with.
-/

set_option autoImplicit false

namespace BoundQuery

structure Deposit where
  key : String
  tags : List String := []
deriving DecidableEq

namespace Deposit

/-- What was stored last under a key. -/
def last? (key : String) (deposits : List Deposit) : Option Deposit :=
  (deposits.filter (fun deposit => deposit.key == key)).getLast?

theorem last?_append (key : String) (first second : List Deposit) :
    last? key (first ++ second) = (last? key second).or (last? key first) := by
  unfold last?
  rw [List.filter_append, List.getLast?_append]

theorem last?_singleton (key : String) (deposit : Deposit) :
    last? key [deposit] = if deposit.key = key then some deposit else none := by
  by_cases same : deposit.key = key
  · simp [last?, same]
  · simp [last?, same]

theorem mem_of_last? {key : String} {deposits : List Deposit} {deposit : Deposit}
    (last : last? key deposits = some deposit) : deposit ∈ deposits ∧ deposit.key = key := by
  have member := List.mem_filter.mp (List.mem_of_getLast? last)
  exact ⟨member.1, beq_iff_eq.mp member.2⟩

end Deposit

variable {Outside : Type}

namespace Setup

variable (setup : Setup Outside)

def depositsOfFetch (statement : Statement) (directive : CacheDirective)
    (session : Session (Site Outside)) : List Deposit :=
  match ((setup.engine.runQuery statement).run session).1 with
  | .error _ => []
  | .ok output =>
      if setup.cache.isCacheable statement output then
        [⟨setup.cache.keyFor statement directive, directive.tags⟩]
      else []

def depositsOfRead (builder : Builder) (request : Request)
    (session : Session (Site Outside)) : List Deposit :=
  match setup.engine.keyOf? builder request with
  | none => []
  | some (key, statement) =>
      match setup.cache.get QueryOutput.ofJson? key session with
      | (some _, _) => []
      | (none, missed) =>
          setup.depositsOfFetch statement (setup.engine.directiveFor builder request statement)
            missed

def depositsOfWarmup : List Builder → Session (Site Outside) → List Deposit
  | [], _ => []
  | builder :: rest, session =>
      match builder.statement with
      | .error _ => []
      | .ok statement =>
          setup.depositsOfFetch statement builder.directive session ++
            match (setup.fetchAndStore statement builder.directive).run session with
            | (.error _, _) => []
            | (.ok _, after) => depositsOfWarmup rest after

end Setup

namespace Step

def deposits (setup : Setup Outside) (session : Session (Site Outside)) :
    Step Outside → List Deposit
  | read builder request => setup.depositsOfRead builder request session
  | warmup builders => setup.depositsOfWarmup builders session
  | put key _ _ => [{ key := key }]
  | _ => []

/-- What a whole run stores, in order. -/
def depositsOf (setup : Setup Outside) :
    Session (Site Outside) → List (Step Outside) → List Deposit
  | _, [] => []
  | session, step :: rest =>
      step.deposits setup session ++ depositsOf setup (step.apply setup session) rest

end Step

namespace Session

def tagKeysFor (session : Session (Site Outside)) (name : String) : List String :=
  session.cache.tags.keysFor name

/-- Tables and tags change places. Both are looked after alike, so what is known of the tables of
the one session is known of the tags of the other. -/
def swapped (session : Session (Site Outside)) : Session (Site Outside) :=
  { session with cache :=
    { session.cache with tables := session.cache.tags, tags := session.cache.tables } }

end Session

open Session (Keeps)

namespace Setup

variable (setup : Setup Outside) (session : Session (Site Outside))

theorem get_swapped {Item : Type} (decode? : Json → Option Item) (key : String) :
    (setup.cache.get decode? key session.swapped).2 =
      (setup.cache.get decode? key session).2.swapped := by
  have same : setup.clock session.swapped.world.outside = setup.clock session.world.outside ∧
      session.swapped.world.store = session.world.store := ⟨rfl, rfl⟩
  unfold ResultCache.get
  simp only [bind, StateT.bind, lookup_run, same.1, same.2]
  cases (session.world.store.get (setup.clock session.world.outside) key).1 with
  | none => rfl
  | some value =>
      dsimp only
      cases decode? value with
      | none => rfl
      | some item => rfl

theorem delete_swapped (key : String) :
    (setup.cache.delete key session.swapped).2 = (setup.cache.delete key session).2.swapped := by
  have same : session.swapped.world = session.world := rfl
  unfold ResultCache.delete
  simp only [bind, StateT.bind, forget_run, removal_run, same]
  generalize (session.world.store.find? key).isSome = held
  cases held with
  | true => rfl
  | false => rfl

theorem dropKeys_swapped (keys : List String) :
    ∀ session : Session (Site Outside), (setup.cache.dropKeys keys session.swapped).2 =
      (setup.cache.dropKeys keys session).2.swapped := by
  induction keys with
  | nil =>
      intro session
      rfl
  | cons key rest ih =>
      intro session
      rw [dropKeys_cons, dropKeys_cons]
      exact ih (dropped session key)

theorem invalidate_tags (target : Invalidation) :
    Keeps session.swapped (setup.cache.invalidate target session).2.swapped ∧
      ∀ kept ∈ (setup.cache.invalidate target session).2.entries, ∀ name, ∀ tag ∈ target.tags,
        Text.lower name = Text.lower tag → kept.1 ∉ session.tagKeysFor name := by
  obtain ⟨swept, stats, run⟩ := invalidate_run setup session target
  let keys := insertKeys [] ((session.cache.takeNames target).1 ++ swept)
  obtain ⟨keeps, gone⟩ := dropKeys_spec setup keys (namesTaken session target).swapped
  rw [dropKeys_swapped] at keeps gone
  have handed : ∀ name key, key ∈ session.swapped.keysFor name → key ∈ keys ∨
      (key ∈ (namesTaken session target).swapped.keysFor name ∧
        ∀ taken ∈ target.tags, Text.lower name ≠ Text.lower taken) := by
    intro name key indexed
    refine (KeyIndex.mem_takeAll indexed).imp_left (fun given => mem_insertKeys.mpr (.inr ?_))
    exact List.mem_append_left _ (List.mem_append_right _ given)
  rw [run]
  exact Keeps.of_taken handed
    (keeps.trans (Keeps.of_subset (fun _ member => member) rfl rfl)) gone rfl rfl

end Setup

/-! ### What is stored stands under its tags -/

/-- An entry that is none of the deposits is old and stands under the tags as before; any other
stands under the tags that its key was last stored with. -/
structure Session.Files (deposits : List Deposit) (before after : Session (Site Outside)) :
    Prop where
  old : ∀ kept ∈ after.entries, Deposit.last? kept.1 deposits = none →
    kept ∈ before.entries ∧
      ∀ name, kept.1 ∈ before.tagKeysFor name → kept.1 ∈ after.tagKeysFor name
  new : ∀ kept ∈ after.entries, ∀ deposit, Deposit.last? kept.1 deposits = some deposit →
    ∀ tag ∈ deposit.tags, kept.1 ∈ after.tagKeysFor tag

namespace Session.Files

variable {before middle after : Session (Site Outside)} {first second : List Deposit}

theorem of_keeps (keeps : Keeps before.swapped after.swapped) : Files [] before after := by
  refine ⟨?_, fun _ _ _ none => by cases none⟩
  intro kept member _
  exact ⟨keeps.entries kept member, fun name indexed => keeps.indexed kept member name indexed⟩

theorem of_same (store : after.world.store = before.world.store)
    (tags : after.cache.tags = before.cache.tags) : Files [] before after := by
  refine ⟨?_, fun _ _ _ none => by cases none⟩
  intro kept member _
  unfold Session.entries at member ⊢
  unfold Session.tagKeysFor
  rw [store] at member
  rw [tags]
  exact ⟨member, fun _ indexed => indexed⟩

theorem refl (session : Session (Site Outside)) : Files [] session session :=
  of_same rfl rfl

theorem trans (one : Files first before middle) (two : Files second middle after) :
    Files (first ++ second) before after := by
  constructor
  · intro kept member none
    rw [Deposit.last?_append, Option.or_eq_none_iff] at none
    obtain ⟨stayed, further⟩ := two.old kept member none.1
    obtain ⟨own, indexed⟩ := one.old kept stayed none.2
    exact ⟨own, fun name there => further name (indexed name there)⟩
  · intro kept member deposit last tag carried
    rw [Deposit.last?_append] at last
    cases recent : Deposit.last? kept.1 second with
    | some other =>
        rw [recent, Option.some_or] at last
        cases last
        exact two.new kept member deposit recent tag carried
    | none =>
        rw [recent, Option.none_or] at last
        obtain ⟨stayed, further⟩ := two.old kept member recent
        exact further tag (one.new kept stayed deposit last tag carried)

theorem of_set {key : String} {value : Json} {ttl : Option Nat} {tags : List String}
    {setup : Setup Outside}
    (entries : after.entries = (setup.cache.set key value ttl before).2.entries)
    (indexed : after.cache.tags =
      tags.foldl (fun index name => index.insert name key) before.cache.tags) :
    Files [⟨key, tags⟩] before after := by
  obtain ⟨stays, own⟩ := KeyIndex.mem_keysFor_foldl key tags before.cache.tags
  constructor
  · intro kept member none
    rw [Deposit.last?_singleton] at none
    rw [entries] at member
    have other : kept.1 ≠ key := by
      intro same
      rw [if_pos same.symm] at none
      cases none
    rcases MemoryCache.mem_of_set member with ⟨old, _⟩ | ⟨same, _⟩
    · refine ⟨old, ?_⟩
      intro name there
      unfold Session.tagKeysFor
      rw [indexed]
      exact stays name kept.1 there
    · exact absurd same other
  · intro kept member deposit last tag carried
    rw [Deposit.last?_singleton] at last
    split at last
    · rename_i same
      cases last
      unfold Session.tagKeysFor
      rw [indexed, ← same]
      exact own tag carried
    · cases last

end Session.Files

namespace Setup

open Session (Files)

variable (setup : Setup Outside) (session : Session (Site Outside))

theorem storeOutput_files (statement : Statement) (directive : CacheDirective)
    (output : QueryOutput) :
    Files (if setup.cache.isCacheable statement output then
        [⟨setup.cache.keyFor statement directive, directive.tags⟩] else [])
      session (setup.cache.storeOutput statement directive output session).2 := by
  unfold ResultCache.storeOutput
  by_cases kept : setup.cache.isCacheable statement output = true
  · rw [if_pos kept, if_neg (by simp [kept])]
    exact Files.of_set rfl rfl
  · rw [if_neg kept, if_pos (by simp [kept])]
    exact Files.refl session

theorem fetchAndStore_files (statement : Statement) (directive : CacheDirective) :
    Files (setup.depositsOfFetch statement directive session) session
      ((setup.fetchAndStore statement directive).run session).2 := by
  have asked : Files [] session ((setup.engine.runQuery statement).run session).2 :=
    Files.of_same rfl rfl
  rw [fetchAndStore_run]
  unfold depositsOfFetch
  cases ran : (setup.engine.runQuery statement).run session with
  | mk outcome after =>
      rw [ran] at asked
      cases outcome with
      | error error => exact asked
      | ok output => exact asked.trans (storeOutput_files setup after statement directive output)

theorem get_files {Item : Type} (decode? : Json → Option Item) (key : String) :
    Files [] session (setup.cache.get decode? key session).2 := by
  apply Files.of_keeps
  rw [← get_swapped]
  exact (get_spec setup session.swapped decode? key).1

theorem readThrough_files (statement : Statement) (directive : CacheDirective) :
    Files
      (match setup.cache.get QueryOutput.ofJson? (setup.cache.keyFor statement directive) session with
        | (some _, _) => []
        | (none, missed) => setup.depositsOfFetch statement directive missed)
      session
      ((setup.cache.readThrough statement directive
        (setup.engine.runQuery statement)).run session).2 := by
  have looked := get_files setup session QueryOutput.ofJson?
    (setup.cache.keyFor statement directive)
  rw [readThrough_run]
  cases ran : setup.cache.get QueryOutput.ofJson? (setup.cache.keyFor statement directive)
    session with
  | mk found after =>
      rw [ran] at looked
      cases found with
      | some output => exact looked
      | none => exact looked.trans (fetchAndStore_files setup after statement directive)

theorem read_files (builder : Builder) (request : Request) :
    Files (setup.depositsOfRead builder request session) session
      ((setup.engine.read builder request).run session).2 := by
  cases made : builder.statementOf request with
  | error error =>
      unfold depositsOfRead
      rw [read_refused setup session made, keyOf?_refused setup made]
      exact Files.refl session
  | ok statement =>
      unfold depositsOfRead
      rw [read_run setup session made, keyOf?_eq setup made]
      by_cases enabled : (request.mayCache setup.config &&
        (setup.engine.directiveFor builder request statement).enabled) = true
      · simp only [if_pos enabled]
        exact readThrough_files setup session statement _
      · simp only [if_neg enabled]
        exact Files.of_same rfl rfl

theorem warmup_files (builders : List Builder) :
    ∀ session : Session (Site Outside), Files (setup.depositsOfWarmup builders session) session
      ((setup.engine.warmup setup.cache builders).run session).2 := by
  induction builders with
  | nil => exact fun session => Files.refl session
  | cons builder rest ih =>
      intro session
      unfold depositsOfWarmup
      rw [warmup_run]
      cases builder.statement with
      | error error => exact Files.refl session
      | ok statement =>
          have fetched := fetchAndStore_files setup session statement builder.directive
          dsimp only
          cases ran : (setup.fetchAndStore statement builder.directive).run session with
          | mk outcome after =>
              rw [ran] at fetched
              cases outcome with
              | error error =>
                  rw [List.append_nil]
                  exact fetched
              | ok output => exact fetched.trans (ih after)

theorem invalidate_files (target : Invalidation) :
    Files [] session (setup.cache.invalidate target session).2 :=
  Files.of_keeps (invalidate_tags setup session target).1

theorem execute_files (builder : Builder) :
    Files [] session ((setup.engine.execute builder).run session).2 := by
  rcases setup.execute_cases session builder with same | ⟨statement, _, executed⟩
  · rw [same]
    exact Files.refl session
  · have after : Files [] session ((setup.engine.runExecute statement).run session).2 :=
      Files.of_same rfl rfl
    rcases executed with same | ⟨_, same⟩
    · rw [same]
      exact after
    · rw [same]
      exact after.trans (invalidate_files setup _ _)

end Setup

namespace Step

open Session (Files)

variable (setup : Setup Outside)

/-- A step stores what is listed for it and leaves the tags of all other entries alone. -/
theorem apply_files (session : Session (Site Outside)) (step : Step Outside) :
    Files (step.deposits setup session) session (step.apply setup session) := by
  cases step with
  | read builder request => exact setup.read_files session builder request
  | execute builder => exact setup.execute_files session builder
  | warmup builders => exact setup.warmup_files builders session
  | lookUp accepts key => exact setup.get_files session _ key
  | holds key => exact Files.of_same rfl rfl
  | put key value ttl => exact Files.of_set rfl rfl
  | erase key =>
      apply Files.of_keeps
      change Keeps session.swapped (setup.cache.delete key session).2.swapped
      rw [← Setup.delete_swapped]
      exact setup.delete_keeps session.swapped key
  | invalidate target => exact setup.invalidate_files session target
  | clear => exact Files.of_keeps (setup.clear_keeps session.swapped)
  | evictExpired => exact Files.of_keeps (setup.evictExpired_keeps session.swapped)
  | resetStats => exact Files.of_same rfl rfl
  | outside change => exact Files.of_same rfl rfl

theorem run_files (steps : List (Step Outside)) :
    ∀ session : Session (Site Outside),
      Files (depositsOf setup session steps) session (run setup session steps) := by
  induction steps with
  | nil => exact fun session => Files.refl session
  | cons step rest ih =>
      intro session
      exact (apply_files setup session step).trans (ih (step.apply setup session))

end Step

end BoundQuery
