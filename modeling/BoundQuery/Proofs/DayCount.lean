import BoundQuery.Calendar.Date
import Mathlib.Tactic.IntervalCases
import Mathlib.Tactic.Ring

/-!
Days counted through the calendar. The date that is made of a number of days is the date with that
number, so an instant has in each zone the date that is shown there.
-/

set_option autoImplicit false

namespace BoundQuery.Date

/-- The leap days up to the end of a year: one in each fourth year, but of the hundredths only in
each fourth. -/
def leapDays (year : Int) : Int :=
  year / 4 - year / 100 + year / 400

def daysBeforeMonth (year : Int) (month : Nat) : Nat :=
  ((List.range (month - 1)).map (fun earlier => daysInMonth year (earlier + 1))).sum

/-- The number of days since 1970-01-01. -/
def dayNumber (date : Date) : Int :=
  365 * (date.year - 1) + leapDays (date.year - 1) + daysBeforeMonth date.year date.month +
    (date.day - 1) - 719162

example : dayNumber ⟨1970, 1, 1⟩ = 0 := by decide

theorem isLeap_iff {year : Int} :
    isLeap year = true ↔ year % 4 = 0 ∧ (year % 100 ≠ 0 ∨ year % 400 = 0) := by
  simp [isLeap]

theorem leapDays_before (year : Int) :
    leapDays year = leapDays (year - 1) + if isLeap year then 1 else 0 := by
  have fourth : year / 4 = (year - 1) / 4 + if year % 4 = 0 then 1 else 0 := by omega
  have hundredth : year / 100 = (year - 1) / 100 + if year % 100 = 0 then 1 else 0 := by omega
  have last : year / 400 = (year - 1) / 400 + if year % 400 = 0 then 1 else 0 := by omega
  unfold leapDays
  simp only [isLeap_iff]
  split at fourth <;> split at hundredth <;> split at last <;> split <;> omega

/-- Behind February the months come in the same lengths every year, and five of them, from March or
from August, have 153 days. -/
theorem daysBeforeMonth_eq (year : Int) {month : Nat} (first : 1 ≤ month) (last : month ≤ 12) :
    daysBeforeMonth year month =
      if month ≤ 2 then 31 * (month - 1)
      else (153 * (month - 3) + 2) / 5 + 59 + if isLeap year then 1 else 0 := by
  unfold daysBeforeMonth daysInMonth
  cases isLeap year <;> interval_cases month <;> rfl

/-! ### Years that begin in March -/

variable {date : Date}

def marchYear (date : Date) : Int :=
  if date.month ≤ 2 then date.year - 1 else date.year

def marchMonth (date : Date) : Int :=
  if date.month ≤ 2 then date.month + 9 else date.month - 3

def marchDay (date : Date) : Int :=
  (153 * date.marchMonth + 2) / 5 + (date.day - 1)

structure Exists (date : Date) : Prop where
  first : 1 ≤ date.month
  last : date.month ≤ 12
  one : 1 ≤ date.day
  most : date.day ≤ daysInMonth date.year date.month

theorem exists_of_isValid (valid : date.isValid = true) : date.Exists := by
  simp only [isValid, Bool.and_eq_true, decide_eq_true_eq] at valid
  obtain ⟨⟨⟨⟨_, first⟩, last⟩, one⟩, most⟩ := valid
  exact ⟨first, last, one, most⟩

theorem dayNumber_eq (real : date.Exists) :
    date.dayNumber + 719468 =
      365 * date.marchYear + leapDays date.marchYear + date.marchDay := by
  have leap := leapDays_before date.year
  obtain ⟨first, last, _, _⟩ := real
  unfold dayNumber marchDay marchYear marchMonth
  rw [daysBeforeMonth_eq date.year first last]
  split
  · omega
  · cases leapYear : isLeap date.year with
    | true =>
        simp only [leapYear, if_true] at leap ⊢
        omega
    | false =>
        simp only [leapYear, Bool.false_eq_true, if_false] at leap ⊢
        omega

theorem day_le (real : date.Exists) :
    (0 ≤ date.marchMonth ∧ date.marchMonth ≤ 10 ∧
        (153 * date.marchMonth + 2) / 5 + date.day ≤ (153 * (date.marchMonth + 1) + 2) / 5) ∨
      (date.marchMonth = 11 ∧ date.day ≤ 28 + if isLeap (date.marchYear + 1) then 1 else 0) := by
  obtain ⟨first, last, _, most⟩ := real
  unfold daysInMonth at most
  unfold marchMonth marchYear
  by_cases february : date.month = 2
  · right
    rw [if_pos february] at most
    have early : date.month ≤ 2 := by omega
    rw [if_pos early, if_pos early, Int.sub_add_cancel]
    refine ⟨by omega, ?_⟩
    split at most
    · rename_i leap
      rwa [if_pos leap]
    · rename_i common
      rwa [if_neg common]
  · left
    rw [if_neg february] at most
    generalize date.month = month at first last february most ⊢
    generalize date.day = day at most ⊢
    interval_cases month <;> simp at february most ⊢ <;> omega

theorem marchDay_bounds (real : date.Exists) :
    0 ≤ date.marchDay ∧ date.marchDay ≤ 365 ∧
      (date.marchDay = 365 → isLeap (date.marchYear + 1) = true) := by
  have one := real.one
  unfold marchDay
  rcases day_le real with ⟨low, high, most⟩ | ⟨month, most⟩
  · exact ⟨by omega, by omega, by omega⟩
  · rw [month]
    split at most
    · rename_i leap
      exact ⟨by omega, by omega, fun _ => leap⟩
    · exact ⟨by omega, by omega, by omega⟩

theorem month_of_marchDay (real : date.Exists) :
    (5 * date.marchDay + 2) / 153 = date.marchMonth := by
  have one := real.one
  unfold marchDay
  rcases day_le real with ⟨low, high, most⟩ | ⟨month, most⟩
  · omega
  · rw [month]
    split at most <;> omega

/-- Month, day and year as they are found from those that begin in March. -/
theorem calendar_of_march (real : date.Exists) :
    (if date.marchMonth < 10 then date.marchMonth + 3 else date.marchMonth - 9) = date.month ∧
      date.marchDay - (153 * date.marchMonth + 2) / 5 + 1 = date.day ∧
      date.marchYear + (if (date.month : Int) ≤ 2 then 1 else 0) = date.year := by
  obtain ⟨first, last, _, _⟩ := real
  unfold marchDay
  refine ⟨?_, by omega, ?_⟩
  · unfold marchMonth
    by_cases early : date.month ≤ 2
    · rw [if_pos early, if_neg (by omega)]
      omega
    · rw [if_neg early, if_pos (by omega)]
      omega
  · unfold marchYear
    by_cases early : date.month ≤ 2
    · rw [if_pos early, if_pos (by omega)]
      omega
    · rw [if_neg early, if_neg (by omega)]
      omega

/-- The year is found again in the day of its era. An era has four centuries, a century at most 25
times four years. -/
theorem yearOfEra_eq {century fourth own day : Int} (centuries : 0 ≤ century ∧ century ≤ 3)
    (fourths : 0 ≤ fourth ∧ fourth ≤ 24) (years : 0 ≤ own ∧ own ≤ 3) (start : 0 ≤ day)
    (stop : day ≤ 365) (leap : day = 365 → own = 3 ∧ (fourth ≠ 24 ∨ century = 3))
    {dayOfEra : Int} (days : dayOfEra = 36524 * century + 1461 * fourth + 365 * own + day) :
    (dayOfEra - dayOfEra / 1460 + dayOfEra / 36524 - dayOfEra / 146096) / 365 =
      100 * century + 4 * fourth + own := by
  by_cases last : dayOfEra = 146096
  · rw [last]
    omega
  · have whole : dayOfEra / 36524 = century := by omega
    have none : dayOfEra / 146096 = 0 := by omega
    have quarters : dayOfEra / 1460 =
        25 * century + fourth + (24 * century + fourth + 365 * own + day) / 1460 := by omega
    have some : (24 * century + fourth + 365 * own + day) / 1460 = 0 ∨
        (24 * century + fourth + 365 * own + day) / 1460 = 1 := by omega
    rw [quarters, whole, none]
    rcases some with early | late
    · omega
    · omega

theorem days_split (year : Int) :
    ∃ era century fourth own, year = 400 * era + (100 * century + 4 * fourth + own) ∧
      (0 ≤ century ∧ century ≤ 3) ∧ (0 ≤ fourth ∧ fourth ≤ 24) ∧ (0 ≤ own ∧ own ≤ 3) ∧
      365 * year + leapDays year =
        146097 * era + (36524 * century + 1461 * fourth + 365 * own) := by
  obtain ⟨centuries, inCentury, split, low, high⟩ :
      ∃ centuries inCentury, year = 100 * centuries + inCentury ∧ 0 ≤ inCentury ∧
        inCentury < 100 := ⟨year / 100, year % 100, by omega, by omega, by omega⟩
  obtain ⟨era, century, eras, least, most⟩ :
      ∃ era century, centuries = 4 * era + century ∧ 0 ≤ century ∧ century ≤ 3 :=
    ⟨centuries / 4, centuries % 4, by omega, by omega, by omega⟩
  obtain ⟨fourth, own, fourths, first, last⟩ :
      ∃ fourth own, inCentury = 4 * fourth + own ∧ 0 ≤ own ∧ own ≤ 3 :=
    ⟨inCentury / 4, inCentury % 4, by omega, by omega, by omega⟩
  refine ⟨era, century, fourth, own, by omega, ⟨least, most⟩, by omega, ⟨first, last⟩, ?_⟩
  have leap : year / 4 = 100 * era + 25 * century + fourth := by omega
  have common : year / 100 = 4 * era + century := by omega
  have again : year / 400 = era := by omega
  unfold leapDays
  rw [leap, common, again]
  omega

theorem ofDays_dayNumber (real : date.Exists) : ofDays date.dayNumber = date := by
  obtain ⟨start, stop, ending⟩ := marchDay_bounds real
  have number := dayNumber_eq real
  obtain ⟨era, century, fourth, own, year, centuries, fourths, years, before⟩ :=
    days_split date.marchYear
  rw [before, Int.add_assoc] at number
  have leap : date.marchDay = 365 → own = 3 ∧ (fourth ≠ 24 ∨ century = 3) := by
    intro last
    have leapYear := isLeap_iff.mp (ending last)
    rw [year] at leapYear
    omega
  have eras : (date.dayNumber + 719468) / 146097 = era := by omega
  have days : (date.dayNumber + 719468) % 146097 =
      36524 * century + 1461 * fourth + 365 * own + date.marchDay := by omega
  have quarters : (100 * century + 4 * fourth + own) / 4 = 25 * century + fourth := by omega
  have wholes : (100 * century + 4 * fourth + own) / 100 = century := by omega
  have dayOfYear : (date.dayNumber + 719468) % 146097 -
      (365 * (100 * century + 4 * fourth + own) + (100 * century + 4 * fourth + own) / 4 -
        (100 * century + 4 * fourth + own) / 100) = date.marchDay := by
    rw [days, quarters, wholes]
    ring
  have place := yearOfEra_eq centuries fourths years start stop leap days
  obtain ⟨ownMonth, ownDay, ownYear⟩ := calendar_of_march real
  unfold ofDays
  dsimp only
  rw [place, eras, dayOfYear, month_of_marchDay real, ownMonth, ownDay,
    Int.add_comm _ (400 * era), ← year, ownYear, Int.toNat_natCast, Int.toNat_natCast]

/-- An instant has, in a zone, the date that is shown there. -/
theorem ofInstant_shown (real : date.Exists) {clock : Int} (least : 0 ≤ clock)
    (most : clock < 86400) (offset : Int) :
    ofInstant (86400 * date.dayNumber + clock - offset) offset = date := by
  have day : (86400 * date.dayNumber + clock - offset + offset) / 86400 = date.dayNumber := by
    omega
  unfold ofInstant
  rw [day, ofDays_dayNumber real]

end BoundQuery.Date
