import BoundQuery.Proofs.Conditions

/-!
Which calls make conditions that can be read: those on plain columns, raw conditions that close what
they open, and groups of such calls to any depth. Every other call leaves the conditions alone.
-/

set_option autoImplicit false

namespace BoundQuery

namespace Call

mutual

def Legible : Call → Prop
  | compare _ column _ _ => IsPlainName column
  | membership _ _ column _ => IsPlainName column
  | between _ _ column _ _ => IsPlainName column
  | nullTest _ _ column => IsPlainName column
  | whereRaw _ sql _ => wellParenthesised sql.toList = true
  | group _ calls => AllLegible calls
  | whereDate column _ _ => IsPlainName column
  | whereYear column _ _ => IsPlainName column
  | whereMonth column _ _ => IsPlainName column
  | whereDay column _ _ => IsPlainName column
  | whereToday column => IsPlainName column
  | whereYesterday column => IsPlainName column
  | whereLastDays column _ => IsPlainName column
  | whereBetweenDates column _ _ => IsPlainName column
  | _ => True

def AllLegible : List Call → Prop
  | [] => True
  | call :: rest => Legible call ∧ AllLegible rest

end

end Call

variable {profile : Profile}

namespace Piece

def Legible (profile : Profile) (result : Except QueryError (List Piece)) : Prop :=
  ∀ pieces combinator, result = .ok pieces → (Condition.mk combinator pieces).Legible profile

variable {column : String}

theorem comparison_legible (readable : profile.Readable) (plain : IsPlainName column)
    (operator : String) (value : Value) :
    Legible profile (comparison profile column operator value) := by
  intro pieces combinator made
  obtain ⟨operation, _, further⟩ := exists_of_bind_ok made
  obtain ⟨rendered, accepted, last⟩ := exists_of_bind_ok further
  have phrase := readable.column column rendered plain accepted
  split at last
  · cases last
    exact Condition.legible_nullTest phrase false
  · split at last
    · cases last
      exact Condition.legible_nullTest phrase true
    · cases last
      exact Condition.legible_comparison readable phrase operation value

theorem membership_legible (readable : profile.Readable) (plain : IsPlainName column)
    (negated : Bool) (values : List Value) :
    Legible profile (membership profile negated column values) := by
  intro pieces combinator made
  obtain ⟨rendered, accepted, last⟩ := exists_of_bind_ok made
  have phrase := readable.column column rendered plain accepted
  cases given : values.isEmpty with
  | true =>
      rw [given] at last
      cases last
      apply Condition.legible_phrase
      cases negated with
      | _ => exact Phrase.flat rfl rfl
  | false =>
      rw [given] at last
      cases last
      exact Condition.legible_membership readable phrase negated given

theorem between_legible (readable : profile.Readable) (plain : IsPlainName column)
    (negated : Bool) (low high : Value) :
    Legible profile (between profile negated column low high) := by
  intro pieces combinator made
  obtain ⟨rendered, accepted, last⟩ := exists_of_bind_ok made
  cases last
  exact Condition.legible_range readable (readable.column column rendered plain accepted) negated
    low high

theorem nullTest_legible (readable : profile.Readable) (plain : IsPlainName column)
    (negated : Bool) : Legible profile (nullTest profile negated column) := by
  intro pieces combinator made
  obtain ⟨rendered, accepted, last⟩ := exists_of_bind_ok made
  cases last
  exact Condition.legible_nullTest (readable.column column rendered plain accepted) negated

theorem rawCondition_legible (readable : profile.Readable) {sql : String}
    (whole : wellParenthesised sql.toList = true) (values : List Value) :
    Legible profile ((rawCondition "where" sql values).map enclosed) := by
  intro pieces combinator made
  obtain ⟨filled, own, same⟩ := exists_of_map_ok made
  obtain ⟨_, _, rfl⟩ := rawCondition_ok own
  rw [← same]
  exact Condition.legible_raw readable whole values

theorem datePart_legible (readable : profile.Readable) (plain : IsPlainName column)
    (part : DatePart) (operator : String) (value : Value) :
    Legible profile (datePart profile part column operator value) := by
  intro pieces combinator made
  obtain ⟨operation, _, further⟩ := exists_of_bind_ok made
  obtain ⟨rendered, accepted, last⟩ := exists_of_bind_ok further
  have phrase := readable.extract part rendered (readable.column column rendered plain accepted)
  cases last
  exact Condition.legible_comparison readable phrase operation value

theorem date_legible (readable : profile.Readable) (plain : IsPlainName column)
    (operator : String) (date : DateInput) :
    Legible profile (Piece.date profile column operator date) := by
  intro pieces combinator made
  obtain ⟨_, _, further⟩ := exists_of_bind_ok made
  exact datePart_legible readable plain .date operator _ pieces combinator further

theorem month_legible (readable : profile.Readable) (plain : IsPlainName column)
    (operator : String) (month : Nat) :
    Legible profile (Piece.month profile column operator month) := by
  unfold Piece.month
  split
  · exact datePart_legible readable plain .month operator _
  · exact fun pieces combinator made => by cases made

theorem day_legible (readable : profile.Readable) (plain : IsPlainName column)
    (operator : String) (day : Nat) : Legible profile (Piece.day profile column operator day) := by
  unfold Piece.day
  split
  · exact datePart_legible readable plain .day operator _
  · exact fun pieces combinator made => by cases made

theorem relativeDate_legible (readable : profile.Readable) (plain : IsPlainName column)
    (operator : Operator) {relative : String} (computed : Phrase relative.toList) :
    Legible profile (relativeDate profile column (" " ++ operator.text ++ " ") relative) := by
  intro pieces combinator made
  obtain ⟨rendered, accepted, last⟩ := exists_of_bind_ok made
  have phrase := readable.extract .date rendered (readable.column column rendered plain accepted)
  cases last
  exact Condition.legible_against phrase operator computed

theorem dateRange_legible (readable : profile.Readable) (plain : IsPlainName column)
    (start stop : DateInput) : Legible profile (dateRange profile column start stop) := by
  intro pieces combinator made
  obtain ⟨_, _, further⟩ := exists_of_bind_ok made
  obtain ⟨_, _, further⟩ := exists_of_bind_ok further
  obtain ⟨rendered, accepted, last⟩ := exists_of_bind_ok further
  have phrase := readable.extract .date rendered (readable.column column rendered plain accepted)
  have keyword : profile.dateOf rendered ++ " BETWEEN " =
      DatePart.date.extract profile rendered ++ " " ++
        (if false then "NOT BETWEEN" else "BETWEEN") ++ " " := by
    rw [String.append_assoc, String.append_assoc]
    rfl
  cases last
  rw [keyword]
  exact Condition.legible_range readable phrase false _ _

end Piece

namespace Draft

def Legible (profile : Profile) (draft : Draft) : Prop :=
  ∀ condition ∈ draft.wheres, condition.Legible profile

variable {draft next : Draft}

theorem Legible.of_wheres (legible : draft.Legible profile) (same : next.wheres = draft.wheres) :
    next.Legible profile := by
  unfold Legible
  rw [same]
  exact legible

theorem Legible.addWhere (legible : draft.Legible profile) {combinator : Combinator}
    {pieces : List Piece} (own : (Condition.mk combinator pieces).Legible profile) :
    (draft.addWhere combinator pieces).Legible profile := by
  intro condition member
  rcases List.mem_append.mp member with old | new
  · exact legible condition old
  · rw [List.mem_singleton.mp new]
    exact own

theorem Legible.filtered (legible : draft.Legible profile) {combinator : Combinator}
    {result : Except QueryError (List Piece)} (own : Piece.Legible profile result)
    (applied : draft.filtered combinator result = .ok next) : next.Legible profile := by
  obtain ⟨pieces, made, same⟩ := exists_of_map_ok applied
  rw [← same]
  exact legible.addWhere (own pieces combinator made)

theorem Legible.addGroup (legible : draft.Legible profile) {inner : Draft}
    (own : inner.Legible profile) (combinator : Combinator) :
    (draft.addGroup combinator inner).Legible profile := by
  unfold Draft.addGroup
  split
  · exact legible
  · rename_i some
    cases conditions : inner.wheres with
    | nil =>
        rw [conditions] at some
        exact absurd rfl some
    | cons first rest =>
        unfold Legible at own
        rw [conditions] at own
        obtain ⟨initial, others⟩ := List.forall_mem_cons.mp own
        exact legible.addWhere (Condition.legible_chain initial others)

theorem Legible.of_map (legible : draft.Legible profile) {Item : Type}
    {source : Except QueryError Item} {change : Item → Draft}
    (applied : source.map change = .ok next)
    (kept : ∀ item, (change item).wheres = draft.wheres) : next.Legible profile := by
  obtain ⟨item, _, same⟩ := exists_of_map_ok applied
  rw [← same]
  exact legible.of_wheres (kept item)

mutual

theorem apply_legible (readable : profile.Readable) (call : Call) {draft next : Draft}
    (own : call.Legible) (legible : draft.Legible profile)
    (applied : draft.apply profile call = .ok next) : next.Legible profile := by
  cases call with
  | compare combinator column operator value =>
      unfold Call.Legible at own
      simp only [apply] at applied
      exact legible.filtered (Piece.comparison_legible readable own operator value) applied
  | membership combinator negated column values =>
      unfold Call.Legible at own
      simp only [apply] at applied
      exact legible.filtered (Piece.membership_legible readable own negated values) applied
  | between combinator negated column low high =>
      unfold Call.Legible at own
      simp only [apply] at applied
      exact legible.filtered (Piece.between_legible readable own negated low high) applied
  | nullTest combinator negated column =>
      unfold Call.Legible at own
      simp only [apply] at applied
      exact legible.filtered (Piece.nullTest_legible readable own negated) applied
  | whereRaw combinator sql values =>
      unfold Call.Legible at own
      simp only [apply] at applied
      exact legible.filtered (Piece.rawCondition_legible readable own values) applied
  | group combinator calls =>
      unfold Call.Legible at own
      simp only [apply] at applied
      obtain ⟨inner, reached, same⟩ := exists_of_map_ok applied
      have empty : ({} : Draft).Legible profile := fun condition member => by cases member
      rw [← same]
      exact legible.addGroup (applyAll_legible readable calls own empty reached) combinator
  | whereDate column operator date =>
      unfold Call.Legible at own
      simp only [apply] at applied
      exact legible.filtered (Piece.date_legible readable own operator date) applied
  | whereYear column operator year =>
      unfold Call.Legible at own
      simp only [apply] at applied
      exact legible.filtered (Piece.datePart_legible readable own .year operator _) applied
  | whereMonth column operator month =>
      unfold Call.Legible at own
      simp only [apply] at applied
      exact legible.filtered (Piece.month_legible readable own operator month) applied
  | whereDay column operator day =>
      unfold Call.Legible at own
      simp only [apply] at applied
      exact legible.filtered (Piece.day_legible readable own operator day) applied
  | whereToday column =>
      unfold Call.Legible at own
      simp only [apply] at applied
      exact legible.filtered
        (Piece.relativeDate_legible readable own .equal readable.currentDate) applied
  | whereYesterday column =>
      unfold Call.Legible at own
      simp only [apply] at applied
      exact legible.filtered
        (Piece.relativeDate_legible readable own .equal (readable.dateMinusDays 1)) applied
  | whereLastDays column days =>
      unfold Call.Legible at own
      simp only [apply] at applied
      exact legible.filtered (Piece.relativeDate_legible readable own .greaterOrEqual
        (readable.dateMinusDays days)) applied
  | whereBetweenDates column start stop =>
      unfold Call.Legible at own
      simp only [apply] at applied
      exact legible.filtered (Piece.dateRange_legible readable own start stop) applied
  | insert records =>
      simp only [apply] at applied
      obtain ⟨insertion, same, _⟩ := insertMany_ok applied
      exact legible.of_wheres (by rw [same])
  | update changes =>
      simp only [apply] at applied
      obtain ⟨assignment, same, _⟩ := updateWith_ok applied
      exact legible.of_wheres (by rw [same])
  | raw sql values =>
      cases applied
      exact legible
  | noCache =>
      cases applied
      exact legible
  | encrypt fields =>
      cases applied
      exact legible
  | _ =>
      simp only [apply] at applied
      exact legible.of_map applied (fun item => rfl)

theorem applyAll_legible (readable : profile.Readable) (calls : List Call) {draft next : Draft}
    (own : Call.AllLegible calls) (legible : draft.Legible profile)
    (applied : draft.applyAll profile calls = .ok next) : next.Legible profile := by
  cases calls with
  | nil =>
      cases applied
      exact legible
  | cons call rest =>
      unfold Call.AllLegible at own
      obtain ⟨middle, first, further⟩ := applyAll_cons_ok applied
      exact applyAll_legible readable rest own.2 (apply_legible readable call own.1 legible first)
        further

end

end Draft

end BoundQuery
