import BoundQuery.Builder.Filter
import BoundQuery.Proofs.Conjunction
import BoundQuery.Proofs.DayCount
import BoundQuery.Proofs.Phrases

/-!
Dates given in writing. The layouts of a date, with or without a time of day, are kept apart by what
follows the day, so that each is read by its own reader or by one that reads the same date. What is
bound is the date alone.
-/

set_option autoImplicit false

namespace BoundQuery.Date

def digits : Nat → Nat → List Char
  | 0, _ => []
  | width + 1, number => digits width (number / 10) ++ [Nat.digitChar (number % 10)]

theorem length_digits (width number : Nat) : (digits width number).length = width := by
  induction width generalizing number with
  | zero => rfl
  | succ width ih => rw [digits, List.length_append, ih, List.length_singleton]

theorem isDigit_digitChar {digit : Nat} (small : digit < 10) :
    (Nat.digitChar digit).isDigit = true ∧ Decimal.digitValue (Nat.digitChar digit) = digit := by
  have each : ∀ digit < 10, (Nat.digitChar digit).isDigit = true ∧
      Decimal.digitValue (Nat.digitChar digit) = digit := by decide
  exact each digit small

theorem isDigit_of_mem_digits {width number : Nat} {char : Char}
    (member : char ∈ digits width number) : char.isDigit = true := by
  induction width generalizing number with
  | zero => cases member
  | succ width ih =>
      rcases List.mem_append.mp member with earlier | last
      · exact ih earlier
      · rw [List.mem_singleton.mp last]
        exact (isDigit_digitChar (Nat.mod_lt _ (by decide))).1

theorem digitsValue_digits {width number : Nat} (fits : number < 10 ^ width) :
    Decimal.digitsValue (digits width number) = number := by
  induction width generalizing number with
  | zero => exact (Nat.lt_one_iff.mp fits).symm
  | succ width ih =>
      have front : number / 10 < 10 ^ width := by
        rw [Nat.pow_succ] at fits
        omega
      have own := ih front
      unfold Decimal.digitsValue at own ⊢
      rw [digits, List.foldl_append, own, List.foldl_cons, List.foldl_nil,
        (isDigit_digitChar (Nat.mod_lt _ (by decide))).2]
      omega

theorem padded_succ {width : Nat} (positive : 0 < width) (number : Nat) :
    padded (width + 1) number = padded width (number / 10) ++ [Nat.digitChar (number % 10)] := by
  unfold padded
  dsimp only
  by_cases small : number < 10
  · rw [Nat.toDigits_of_lt_base small, Nat.div_eq_of_lt small, Nat.mod_eq_of_lt small,
      Nat.toDigits_of_lt_base (by decide : 0 < 10), List.length_singleton, List.length_singleton,
      Nat.add_sub_cancel]
    have zero : [Nat.digitChar 0] = List.replicate 1 '0' := rfl
    rw [zero, List.replicate_append_replicate, Nat.sub_add_cancel positive]
  · rw [Nat.toDigits_of_base_le (by decide) (Nat.not_lt.mp small), List.length_append,
      List.length_singleton, Nat.add_sub_add_right, List.append_assoc]

theorem padded_eq {width number : Nat} (positive : 0 < width) (fits : number < 10 ^ width) :
    padded width number = digits width number := by
  induction width generalizing number with
  | zero => cases positive
  | succ width ih =>
      cases width with
      | zero =>
          have small : number < 10 := fits
          unfold padded
          rw [Nat.toDigits_of_lt_base small, digits, digits, Nat.mod_eq_of_lt small]
          rfl
      | succ width =>
          have front : number / 10 < 10 ^ (width + 1) := by
            rw [Nat.pow_succ] at fits
            omega
          rw [padded_succ (Nat.succ_pos width), ih (Nat.succ_pos width) front]
          rfl

theorem readNumber?_digits {width number : Nat} (positive : 0 < width)
    (fits : number < 10 ^ width) (rest : List Char) :
    readNumber? width (digits width number ++ rest) = some (number, rest) := by
  have length := length_digits width number
  have taken : ((digits width number ++ rest).take width).takeWhile Char.isDigit =
      digits width number := by
    rw [List.take_append_of_le_length (Nat.le_of_eq length.symm),
      List.take_of_length_le (Nat.le_of_eq length), List.takeWhile_eq_self_iff]
    exact fun char member => isDigit_of_mem_digits member
  have some : (digits width number).isEmpty = false := by
    rw [List.isEmpty_eq_false_iff_exists_mem, ← List.length_pos_iff_exists_mem, length]
    exact positive
  unfold readNumber?
  dsimp only
  rw [taken, some, if_neg Bool.false_ne_true, digitsValue_digits fits, List.drop_left]

theorem readExact?_digits {width least most number : Nat} (positive : 0 < width)
    (fits : number < 10 ^ width) (low : least ≤ number) (high : number ≤ most)
    (rest : List Char) :
    readExact? width least most (digits width number ++ rest) = some (number, rest) := by
  unfold readExact?
  rw [readNumber?_digits positive fits]
  simp [length_digits, low, high, Nat.add_comm]

theorem digits_cons {width : Nat} (positive : 0 < width) (number : Nat) :
    ∃ first more, digits width number = first :: more ∧ first.isDigit = true := by
  cases shown : digits width number with
  | nil =>
      have length := length_digits width number
      rw [shown] at length
      exact absurd positive (Nat.not_lt.mpr (Nat.le_of_eq length.symm))
  | cons first more =>
      have member : first ∈ digits width number := by
        rw [shown]
        exact List.mem_cons_self
      exact ⟨first, more, rfl, isDigit_of_mem_digits member⟩

theorem visible_of_isDigit {char : Char} (digit : char.isDigit = true) :
    Text.isBlank char = false :=
  isBlank_of_isNamePart (isNamePart_of_isDigit digit)

theorem trimStartChars_digits {width : Nat} (positive : 0 < width) (number : Nat)
    (rest : List Char) :
    Text.trimStartChars (digits width number ++ rest) = digits width number ++ rest := by
  obtain ⟨first, more, shown, digit⟩ := digits_cons positive number
  rw [shown]
  exact List.dropWhile_cons_of_neg (by rw [visible_of_isDigit digit]; exact Bool.false_ne_true)

theorem readField?_digits {least most number : Nat} (fits : number < 100) (low : least ≤ number)
    (high : number ≤ most) (rest : List Char) :
    readField? least most (digits 2 number ++ rest) = some (number, rest) := by
  unfold readField?
  rw [trimStartChars_digits (by decide), readNumber?_digits (by decide) fits]
  simp [low, high]

theorem readYear?_digits {year : Nat} (fits : year < 10000) (rest : List Char) :
    readYear? (digits 4 year ++ rest) = some ((year : Int), rest) := by
  obtain ⟨first, more, shown, digit⟩ := digits_cons (by decide : 0 < 4) year
  have unsigned : ∀ sign : Char, sign.toNat < 48 → ∀ others,
      digits 4 year ++ rest ≠ sign :: others := by
    intro sign outside others begins
    rw [shown] at begins
    exact ne_of_isDigit digit (.inl outside) (List.cons.inj begins).1
  unfold readYear?
  rw [trimStartChars_digits (by decide)]
  split
  · rename_i others begins
    exact absurd begins (unsigned '-' (by decide) others)
  · rename_i others begins
    exact absurd begins (unsigned '+' (by decide) others)
  · rw [readNumber?_digits (by decide) fits]
    rfl

/-! ### Dates -/

/-- A date that exists, in a year of four digits. -/
structure Common (date : Date) : Prop where
  valid : date.isValid = true
  least : 0 ≤ date.year
  most : date.year ≤ 9999

/-- Year, month and day in four, two and two digits. -/
def dateText (date : Date) : List Char :=
  digits 4 date.year.toNat ++ '-' :: (digits 2 date.month ++ '-' :: digits 2 date.day)

theorem dateText_append (date : Date) (rest : List Char) :
    date.dateText ++ rest =
      digits 4 date.year.toNat ++
        '-' :: (digits 2 date.month ++ '-' :: (digits 2 date.day ++ rest)) := by
  simp [dateText]

variable {date : Date}

namespace Common

variable (common : date.Common)
include common

theorem bounds : date.year.toNat < 10000 ∧ (1 ≤ date.month ∧ date.month ≤ 12) ∧
    (1 ≤ date.day ∧ date.day ≤ 31) := by
  obtain ⟨first, last, one, most⟩ := exists_of_isValid common.valid
  have longest : daysInMonth date.year date.month ≤ 31 := by
    unfold daysInMonth
    split
    · split <;> decide
    · split <;> decide
  have year := common.most
  exact ⟨by omega, ⟨first, last⟩, one, Nat.le_trans most longest⟩

theorem make : make? date.year date.month date.day = some date :=
  if_pos common.valid

theorem text_eq : date.text = String.ofList date.dateText := by
  obtain ⟨year, ⟨_, month⟩, _, day⟩ := common.bounds
  have four : (0 ≤ date.year && date.year ≤ 9999 : Bool) = true := by
    rw [Bool.and_eq_true, decide_eq_true_eq, decide_eq_true_eq]
    exact ⟨common.least, common.most⟩
  unfold text yearText dateText
  rw [if_pos four, padded_eq (by decide) year,
    padded_eq (by decide) (by omega : date.month < 10 ^ 2),
    padded_eq (by decide) (by omega : date.day < 10 ^ 2), List.append_assoc, List.cons_append]

theorem readLooseDate?_dateText (rest : List Char) :
    readLooseDate? (date.dateText ++ rest) = some (date, rest) := by
  obtain ⟨year, ⟨january, december⟩, first, last⟩ := common.bounds
  unfold readLooseDate?
  rw [dateText_append, readYear?_digits year]
  simp only [Text.after?, beq_self_eq_true, if_true, Option.bind_eq_bind, Option.bind_some,
    Option.pure_def]
  rw [readField?_digits (by omega) january december]
  simp only [Text.after?, beq_self_eq_true, if_true, Option.bind_some]
  rw [readField?_digits (by omega) first last]
  simp only [Int.toNat_of_nonneg common.least, common.make, Option.bind_some]

end Common

/-! ### Times of day -/

/-- A time of day to the second or below it; a minute may have a leap second. -/
structure Clock where
  hour : Fin 24
  minute : Fin 60
  second : Fin 61
  fraction : List (Fin 10)

def minutesText (hour : Fin 24) (minute : Fin 60) : List Char :=
  digits 2 hour ++ ':' :: digits 2 minute

/-- A fraction without digits has no point either. -/
def fractionText : List (Fin 10) → List Char
  | [] => []
  | first :: more => '.' :: (first :: more).map (fun digit => Nat.digitChar digit.val)

def Clock.text (clock : Clock) : List Char :=
  minutesText clock.hour clock.minute ++
    ':' :: (digits 2 clock.second ++ fractionText clock.fraction)

/-- The offset from universal time, below a day. -/
inductive Zone where
  | universal (mark : Char) (known : mark = 'Z' ∨ mark = 'z')
  | ahead (sign : Char) (known : sign = '+' ∨ sign = '-') (hours : Fin 24) (minutes : Fin 60)

def Zone.text : Zone → List Char
  | universal mark _ => [mark]
  | ahead sign _ hours minutes => sign :: minutesText hours minutes

def EndsFraction (rest : List Char) : Prop :=
  ∀ char others, rest = char :: others → char.isDigit = false ∧ char ≠ '.'

theorem endsFraction_nil : EndsFraction [] :=
  fun _ _ begins => by cases begins

theorem Zone.endsFraction_text (zone : Zone) : EndsFraction zone.text := by
  intro char others begins
  cases zone with
  | universal mark known =>
      cases begins
      rcases known with rfl | rfl <;> decide
  | ahead sign known hours minutes =>
      cases begins
      rcases known with rfl | rfl <;> decide

theorem skipFraction?_text (fraction : List (Fin 10)) {rest : List Char}
    (ends : EndsFraction rest) : skipFraction? (fractionText fraction ++ rest) = some rest := by
  cases fraction with
  | nil =>
      unfold skipFraction?
      split
      · rename_i others begins
        exact absurd rfl (ends '.' others begins).2
      · rfl
  | cons first more =>
      have digit : ∀ char ∈ (first :: more).map (fun digit => Nat.digitChar digit.val),
          char.isDigit = true := by
        intro char member
        obtain ⟨digit, -, rfl⟩ := List.mem_map.mp member
        exact (isDigit_digitChar digit.isLt).1
      have stop : rest.takeWhile Char.isDigit = [] ∧ rest.dropWhile Char.isDigit = rest := by
        cases rest with
        | nil => exact ⟨rfl, rfl⟩
        | cons char others =>
            have outside := (ends char others rfl).1
            simp [outside]
      rw [fractionText, List.cons_append, skipFraction?,
        List.takeWhile_append_of_pos digit, List.dropWhile_append_of_pos digit, stop.1, stop.2]
      rfl

theorem skipLooseTime?_minutes (hour : Fin 24) (minute : Fin 60) :
    skipLooseTime? false (minutesText hour minute) = some [] := by
  have read : readField? 0 59 (digits 2 minute) = some (minute.val, []) := by
    rw [← List.append_nil (digits 2 minute)]
    exact readField?_digits (by omega) (Nat.zero_le _) (by omega) []
  unfold skipLooseTime? minutesText
  rw [readField?_digits (by omega) (Nat.zero_le _) (by omega)]
  simp only [Text.after?, beq_self_eq_true, if_true, Option.bind_eq_bind, Option.bind_some, read]
  rfl

theorem skipLooseTime?_clock (clock : Clock) : skipLooseTime? true clock.text = some [] := by
  have read := skipFraction?_text clock.fraction endsFraction_nil
  rw [List.append_nil] at read
  unfold skipLooseTime? Clock.text minutesText
  rw [List.append_assoc, readField?_digits (by omega) (Nat.zero_le _) (by omega)]
  simp only [List.cons_append, Text.after?, beq_self_eq_true, if_true, Option.bind_eq_bind,
    Option.bind_some]
  rw [readField?_digits (by omega) (Nat.zero_le _) (by omega)]
  simp only [Text.after?, beq_self_eq_true, if_true, Option.bind_some]
  rw [readField?_digits (by omega) (Nat.zero_le _) (by omega)]
  exact read

theorem skipZone?_text (zone : Zone) : skipZone? zone.text = some [] := by
  cases zone with
  | universal mark known => rcases known with rfl | rfl <;> rfl
  | ahead sign known hours minutes =>
      have read : readExact? 2 0 59 (digits 2 minutes) = some (minutes.val, []) := by
        rw [← List.append_nil (digits 2 minutes)]
        exact readExact?_digits (by decide) (by omega) (Nat.zero_le _) (by omega) []
      have hour (rest : List Char) :
          readExact? 2 0 23 (digits 2 hours ++ rest) = some (hours.val, rest) :=
        readExact?_digits (by decide) (by omega) (Nat.zero_le _) (by omega) rest
      rcases known with rfl | rfl
      · simp [Zone.text, minutesText, skipZone?, hour, Text.after?, read]
      · simp [Zone.text, minutesText, skipZone?, hour, Text.after?, read]

def skipStampedTime? : List Char → Option (List Char)
  | [] => none
  | mark :: time =>
      if !isDateTimeMark mark then none
      else do
        let (_, afterHour) ← readExact? 2 0 23 time
        let (_, afterMinute) ← readExact? 2 0 59 (← Text.after? [':'] afterHour)
        let (_, afterSecond) ← readExact? 2 0 60 (← Text.after? [':'] afterMinute)
        skipZone? (← skipFraction? afterSecond)

theorem skipStampedTime?_text {mark : Char} (known : isDateTimeMark mark = true) (clock : Clock)
    (zone : Zone) : skipStampedTime? (mark :: (clock.text ++ zone.text)) = some [] := by
  have pair {most number : Nat} (fits : number < 100) (high : number ≤ most) (rest : List Char) :
      readExact? 2 0 most (digits 2 number ++ rest) = some (number, rest) :=
    readExact?_digits (by decide) fits (Nat.zero_le number) high rest
  unfold skipStampedTime? Clock.text minutesText
  simp only [known, Bool.not_true, Bool.false_eq_true, if_false, List.append_assoc,
    List.cons_append]
  rw [pair (by omega) (by omega)]
  simp only [Text.after?, beq_self_eq_true, if_true, Option.bind_eq_bind, Option.bind_some]
  rw [pair (by omega) (by omega)]
  simp only [Text.after?, beq_self_eq_true, if_true, Option.bind_some]
  rw [pair (by omega) (by omega)]
  simp only [Option.bind_some, skipFraction?_text clock.fraction zone.endsFraction_text]
  exact skipZone?_text zone

/-! ### Layouts -/

/-- What is written behind the day. -/
inductive Layout where
  | plain
  | minutes (hour : Fin 24) (minute : Fin 60)
  | spaced (clock : Clock)
  | joined (clock : Clock)
  | stamped (mark : Char) (known : isDateTimeMark mark = true) (clock : Clock) (zone : Zone)

def Layout.text : Layout → List Char
  | plain => []
  | minutes hour minute => ' ' :: minutesText hour minute
  | spaced clock => ' ' :: clock.text
  | joined clock => 'T' :: clock.text
  | stamped mark _ clock zone => mark :: (clock.text ++ zone.text)

/-- A reader that takes the date first gives that date or none, so it may as well be asked before
the others. -/
theorem onlyIfAll_or (rest : Option (List Char)) {others : Unit → Option Date}
    (read : rest = some [] ∨ others () = some date) :
    HOrElse.hOrElse (rest.bind (onlyIfAll date)) others = some date := by
  cases rest with
  | none => exact read.resolve_left nofun
  | some left =>
      cases left with
      | nil => rfl
      | cons char more => exact read.resolve_left (by simp)

namespace Common

variable (common : date.Common)
include common

theorem readTimestamp?_dateText (rest : List Char) :
    readTimestamp? (date.dateText ++ rest) = (skipStampedTime? rest).bind (onlyIfAll date) := by
  obtain ⟨year, ⟨january, december⟩, first, last⟩ := common.bounds
  unfold readTimestamp?
  rw [dateText_append, readExact?_digits (by decide) year (Nat.zero_le _) (by omega)]
  simp only [Text.after?, beq_self_eq_true, if_true, Option.bind_eq_bind, Option.bind_some]
  rw [readExact?_digits (by decide) (by omega) january december]
  simp only [Text.after?, beq_self_eq_true, if_true, Option.bind_some]
  rw [readExact?_digits (by decide) (by omega) first last]
  simp only [Option.bind_some, Int.toNat_of_nonneg common.least, common.make]
  unfold skipStampedTime?
  cases rest with
  | nil => rfl
  | cons mark time =>
      dsimp only
      split
      · rfl
      · simp only [Option.bind_eq_bind, Option.bind_assoc]

theorem readChars?_dateText {rest : List Char}
    (taken : rest = [] ∨ skipStampedTime? rest = some [] ∨
      skipLooseTime? true (Text.trimStartChars rest) = some [] ∨
      (Text.after? ['T'] rest).bind (skipLooseTime? true) = some [] ∨
      skipLooseTime? false (Text.trimStartChars rest) = some []) :
    readChars? (date.dateText ++ rest) = some date := by
  unfold readChars? readPlain? readSpaced? readWithT?
  rw [common.readLooseDate?_dateText, common.readTimestamp?_dateText]
  simp only [Option.bind_eq_bind, Option.bind_some]
  rw [← Option.bind_assoc]
  refine onlyIfAll_or (some rest) (taken.imp (congrArg some) fun taken => ?_)
  refine onlyIfAll_or _ (taken.imp_right fun taken => ?_)
  refine onlyIfAll_or _ (taken.imp_right fun taken => ?_)
  refine onlyIfAll_or _ (taken.imp_right fun minutes => ?_)
  rw [minutes]
  rfl

/-- One of the layouts takes the whole text; it need not be the first that is tried. -/
theorem readChars?_layout (layout : Layout) :
    readChars? (date.dateText ++ layout.text) = some date := by
  have front (hour : Fin 24) (rest : List Char) :
      Text.trimStartChars (' ' :: (digits 2 hour ++ rest)) = digits 2 hour ++ rest :=
    trimStartChars_digits (by decide) _ _
  refine common.readChars?_dateText ?_
  cases layout with
  | plain => exact .inl rfl
  | minutes hour minute =>
      refine .inr (.inr (.inr (.inr ?_)))
      rw [Layout.text, minutesText, front]
      exact skipLooseTime?_minutes hour minute
  | spaced clock =>
      refine .inr (.inr (.inl ?_))
      have start : Text.trimStartChars (' ' :: clock.text) = clock.text := by
        rw [Clock.text, minutesText, List.append_assoc, front]
      rw [Layout.text, start]
      exact skipLooseTime?_clock clock
  | joined clock => exact .inr (.inr (.inr (.inl (skipLooseTime?_clock clock))))
  | stamped mark known clock zone => exact .inr (.inl (skipStampedTime?_text known clock zone))

end Common

def EndsVisibly (chars : List Char) : Prop :=
  ∃ front last, chars = front ++ [last] ∧ Text.isBlank last = false

theorem EndsVisibly.behind {chars : List Char} (visible : EndsVisibly chars) (front : List Char) :
    EndsVisibly (front ++ chars) := by
  obtain ⟨own, last, rfl, seen⟩ := visible
  exact ⟨front ++ own, last, (List.append_assoc _ _ _).symm, seen⟩

theorem endsVisibly_digits (width number : Nat) : EndsVisibly (digits (width + 1) number) :=
  ⟨_, _, rfl, visible_of_isDigit (isDigit_digitChar (Nat.mod_lt _ (by decide))).1⟩

theorem endsVisibly_minutes (hour : Fin 24) (minute : Fin 60) :
    EndsVisibly (minutesText hour minute) :=
  ((endsVisibly_digits 1 minute).behind [':']).behind _

theorem endsVisibly_clock (clock : Clock) : EndsVisibly clock.text := by
  have behind {tail : List Char} (visible : EndsVisibly tail) :
      EndsVisibly (minutesText clock.hour clock.minute ++ ':' :: tail) :=
    (visible.behind [':']).behind _
  refine behind ?_
  cases clock.fraction with
  | nil =>
      rw [fractionText, List.append_nil]
      exact endsVisibly_digits 1 clock.second
  | cons first more =>
      obtain ⟨front, last, split⟩ := List.eq_nil_or_concat' (first :: more) |>.resolve_left nofun
      rw [fractionText, split, List.map_append, List.map_singleton]
      have seen := visible_of_isDigit (isDigit_digitChar last.isLt).1
      have digits : EndsVisibly (front.map (fun digit => Nat.digitChar digit.val) ++
          [Nat.digitChar last.val]) := ⟨_, _, rfl, seen⟩
      exact (digits.behind ['.']).behind _

theorem endsVisibly_zone (zone : Zone) : EndsVisibly zone.text := by
  cases zone with
  | universal mark known =>
      refine ⟨[], mark, rfl, ?_⟩
      rcases known with rfl | rfl <;> decide
  | ahead sign known hours minutes => exact (endsVisibly_minutes hours minutes).behind [sign]

theorem endsVisibly_layout (layout : Layout) : EndsVisibly (date.dateText ++ layout.text) := by
  cases layout with
  | plain =>
      rw [Layout.text, List.append_nil]
      have day := ((endsVisibly_digits 1 date.day).behind ['-']).behind (digits 2 date.month)
      exact (day.behind ['-']).behind (digits 4 date.year.toNat)
  | minutes hour minute => exact ((endsVisibly_minutes hour minute).behind [' ']).behind _
  | spaced clock => exact ((endsVisibly_clock clock).behind [' ']).behind _
  | joined clock => exact ((endsVisibly_clock clock).behind ['T']).behind _
  | stamped mark known clock zone =>
      exact ((endsVisibly_zone zone).behind clock.text |>.behind [mark]).behind _

theorem EndsVisibly.trimChars_eq {chars : List Char} (visible : EndsVisibly chars)
    (start : Text.trimStartChars chars = chars) : Text.trimChars chars = chars := by
  obtain ⟨front, last, rfl, seen⟩ := visible
  have stop : ¬Text.isBlank last = true := by
    rw [seen]
    exact Bool.false_ne_true
  unfold Text.trimChars
  rw [start, Text.trimEndChars, List.reverse_append, List.reverse_singleton,
    List.singleton_append, List.dropWhile_cons_of_neg stop, List.reverse_cons,
    List.reverse_reverse]

theorem Common.read_layout (common : date.Common) (layout : Layout) {before after : List Char}
    (blankBefore : ∀ char ∈ before, Text.isBlank char = true)
    (blankAfter : ∀ char ∈ after, Text.isBlank char = true) :
    Date.read (String.ofList (before ++ (date.dateText ++ layout.text) ++ after)) = .ok date := by
  have start : Text.trimStartChars (date.dateText ++ layout.text) =
      date.dateText ++ layout.text := by
    rw [dateText_append]
    exact trimStartChars_digits (by decide) _ _
  unfold Date.read
  rw [String.toList_ofList, trimChars_before blankAfter, trimChars_behind blankBefore,
    (endsVisibly_layout layout).trimChars_eq start, common.readChars?_layout]

/-- The ways to give a date: itself, with any time of day, by an instant that falls on it in its own
zone, or in writing. -/
inductive GivenAs (date : Date) : DateInput → Prop
  | date : GivenAs date (.given date)
  | timed (second nanosecond : Nat) : GivenAs date (.timed date second nanosecond)
  | instant {clock : Int} (least : 0 ≤ clock) (most : clock < 86400) (offset : Int) :
      GivenAs date (.instant (86400 * date.dayNumber + clock - offset) offset)
  | written (layout : Layout) {before after : List Char}
      (blankBefore : ∀ char ∈ before, Text.isBlank char = true)
      (blankAfter : ∀ char ∈ after, Text.isBlank char = true) :
      GivenAs date (.written (String.ofList (before ++ (date.dateText ++ layout.text) ++ after)))

theorem Common.resolve_givenAs (common : date.Common) {input : DateInput}
    (given : date.GivenAs input) : input.resolve = .ok date := by
  cases given with
  | date => rfl
  | timed => rfl
  | instant least most offset =>
      exact congrArg Except.ok (ofInstant_shown (exists_of_isValid common.valid) least most offset)
  | written layout blankBefore blankAfter => exact common.read_layout layout blankBefore blankAfter

theorem Common.value_givenAs (common : date.Common) {input : DateInput}
    (given : date.GivenAs input) :
    input.value = .ok (.string (String.ofList date.dateText)) := by
  unfold DateInput.value
  rw [common.resolve_givenAs given, common.text_eq.symm]
  rfl

end BoundQuery.Date

namespace BoundQuery

/-- The time of day and the zone in which a date is given are left out of every condition on it. -/
theorem only_the_date_is_bound {date : Date} (common : date.Common) {input : DateInput}
    (given : date.GivenAs input) {last : Date} (lastCommon : last.Common) {stop : DateInput}
    (lastGiven : last.GivenAs stop) (clauses : Clauses) (profile : Profile)
    (column operator : String) :
    input.resolve = .ok date ∧
      clauses.whereDate profile column operator input = (do
        let comparison ← Operator.read operator
        let rendered ← profile.column column
        pure (clauses.addWhere .and
          [.sql (profile.dateOf rendered ++ " " ++ comparison.text ++ " "), .slot]
          [.string (String.ofList date.dateText)])) ∧
      clauses.whereBetweenDates profile column input stop = (do
        let rendered ← profile.column column
        pure (clauses.addWhere .and
          [.sql (profile.dateOf rendered ++ " BETWEEN "), .slot, .sql " AND ", .slot]
          [.string (String.ofList date.dateText), .string (String.ofList last.dateText)])) := by
  have value := common.value_givenAs given
  have lastValue := lastCommon.value_givenAs lastGiven
  refine ⟨common.resolve_givenAs given, ?_, ?_⟩
  · unfold Clauses.whereDate
    rw [value]
    rfl
  · unfold Clauses.whereBetweenDates
    rw [value, lastValue]
    rfl

/-- A leap second almost a day behind universal time, between blanks, and a second that universal
time counts with another year. -/
theorem leap_day_and_last_day_are_bound :
    (DateInput.written "\t2024-02-29t23:59:60.09-23:59\u3000\n").resolve = .ok ⟨2024, 2, 29⟩ ∧
      Clauses.whereDate {} Dialect.sqlite.profile "at" ">="
          (.written "\t2024-02-29t23:59:60.09-23:59\u3000\n") =
        .ok (Clauses.addWhere {} .and [.sql "DATE(\"at\") >= ", .slot] [.string "2024-02-29"]) ∧
      Clauses.whereBetweenDates {} Dialect.sqlite.profile "at"
          (.written "\t2024-02-29t23:59:60.09-23:59\u3000\n")
          (.instant 253402387139 (-86340)) =
        .ok (Clauses.addWhere {} .and
          [.sql "DATE(\"at\") BETWEEN ", .slot, .sql " AND ", .slot]
          [.string "2024-02-29", .string "9999-12-31"]) := by
  have common : (Date.mk 2024 2 29).Common := ⟨by decide, by decide, by decide⟩
  have lastCommon : (Date.mk 9999 12 31).Common := ⟨by decide, by decide, by decide⟩
  have given : (Date.mk 2024 2 29).GivenAs
      (.written "\t2024-02-29t23:59:60.09-23:59\u3000\n") :=
    .written (.stamped 't' rfl ⟨23, 59, 60, [0, 9]⟩ (.ahead '-' (.inr rfl) 23 59))
      (List.all_eq_true.mp (by decide : ['\t'].all Text.isBlank = true))
      (List.all_eq_true.mp (by decide : ['\u3000', '\n'].all Text.isBlank = true))
  have seconds : 86400 * Date.dayNumber ⟨9999, 12, 31⟩ + 86399 - -86340 = 253402387139 := by decide
  have lastGiven : (Date.mk 9999 12 31).GivenAs (.instant 253402387139 (-86340)) := by
    rw [← seconds]
    exact .instant (by decide) (by decide) (-86340)
  obtain ⟨resolved, compared, between⟩ :=
    only_the_date_is_bound common given lastCommon lastGiven {} Dialect.sqlite.profile "at" ">="
  have operator : Operator.read ">=" = .ok .greaterOrEqual := by rfl
  have column : Dialect.sqlite.profile.column "at" = .ok "\"at\"" := by rfl
  rw [column] at compared between
  rw [operator] at compared
  exact ⟨resolved, compared, between⟩

end BoundQuery
