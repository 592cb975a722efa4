import BoundQuery.Page
import Mathlib.Data.Rat.Floor

/-!
The arithmetic of numbered pages is that of numbers without a bound. No sum and no difference leaves
the 64 bits, a product that would leave them lies past every row, and one after another the pages
hold each position once.
-/

set_option autoImplicit false

namespace BoundQuery

section Rounding

variable {dividend divisor bound : Nat}

theorem ceilDiv_le_iff (positive : 1 ≤ divisor) :
    ceilDiv dividend divisor ≤ bound ↔ dividend ≤ bound * divisor := by
  have whole := Nat.div_add_mod dividend divisor
  unfold ceilDiv
  split
  · rename_i even
    rw [even, Nat.add_zero] at whole
    rw [Nat.add_zero, ← Nat.mul_le_mul_left_iff positive, whole, Nat.mul_comm divisor]
  · rename_i uneven
    have apart : dividend ≠ bound * divisor := by
      intro same
      rw [same, Nat.mul_mod_left] at uneven
      exact uneven rfl
    rw [Nat.succ_le_iff, Nat.div_lt_iff_lt_mul positive]
    omega

theorem lt_ceilDiv_iff (positive : 1 ≤ divisor) :
    bound < ceilDiv dividend divisor ↔ bound * divisor < dividend := by
  rw [← Nat.not_le, ceilDiv_le_iff positive, Nat.not_le]

theorem ceilDiv_eq_ceil (positive : 1 ≤ divisor) :
    ceilDiv dividend divisor = ⌈(dividend / divisor : ℚ)⌉₊ := by
  have some : (0 : ℚ) < divisor := Nat.cast_pos.mpr positive
  refine eq_of_forall_ge_iff fun bound => ?_
  rw [ceilDiv_le_iff positive, Nat.ceil_le, div_le_iff₀ some, ← Nat.cast_mul, Nat.cast_le]

end Rounding

def checkedAdd (left right : Nat) : Option Nat :=
  if left + right ≤ greatestWord then some (left + right) else none

def checkedSub (left right : Nat) : Option Nat :=
  if right ≤ left then some (left - right) else none

/-- There is no quotient by zero, and one that is rounded up must fit. -/
def checkedCeilDiv (dividend divisor : Nat) : Option Nat :=
  if divisor = 0 then none
  else if dividend % divisor = 0 then some (dividend / divisor)
  else checkedAdd (dividend / divisor) 1

theorem checkedCeilDiv_eq {dividend divisor : Nat} (positive : 1 ≤ divisor)
    (word : dividend ≤ greatestWord) :
    checkedCeilDiv dividend divisor = some (ceilDiv dividend divisor) := by
  unfold checkedCeilDiv ceilDiv
  rw [if_neg (Nat.ne_of_gt positive)]
  split
  · rfl
  · rename_i uneven
    -- A remainder is left only by a divisor of two or more.
    have least : 2 ≤ divisor := by
      rcases Nat.lt_or_ge divisor 2 with less | least
      · rw [show divisor = 1 by omega, Nat.mod_one] at uneven
        exact absurd rfl uneven
      · exact least
    have half : dividend / divisor ≤ dividend / 2 := Nat.div_le_div_left least (by omega)
    have fits : dividend / divisor + 1 ≤ greatestWord := by
      unfold greatestWord at *
      omega
    rw [checkedAdd, if_pos fits]

namespace PageInfo

def bounds? (before perPage total : Nat) : Option (Nat × Nat) :=
  match checkedMul before perPage with
  | some skipped =>
      if skipped < total then
        (checkedAdd skipped 1).map fun first =>
          (first, min (saturatingAdd skipped perPage) total)
      else some (0, 0)
  | none => some (0, 0)

/-- A page with every plain sum, difference and quotient checked; none where one of them fails. -/
def make? (page perPage total : Nat) : Option PageInfo := do
  let totalPages ← checkedCeilDiv total perPage
  let before ← checkedSub page 1
  let (first, last) ← bounds? before perPage total
  pure
    { page := page
      perPage := perPage
      total := total
      totalPages := totalPages
      hasMore := page < totalPages
      first := first
      last := last }

variable {page perPage total : Nat}

theorem bounds?_eq (word : total ≤ greatestWord) :
    bounds? (page - 1) perPage total = some (bounds page perPage total) := by
  unfold bounds? bounds
  cases checkedMul (page - 1) perPage with
  | none => rfl
  | some skipped =>
      dsimp only
      split
      · have fits : skipped + 1 ≤ greatestWord := by omega
        rw [checkedAdd, if_pos fits]
        rfl
      · rfl

theorem make?_eq (known : 1 ≤ page) (positive : 1 ≤ perPage) (word : total ≤ greatestWord) :
    make? page perPage total = some (make page perPage total) := by
  have before : checkedSub page 1 = some (page - 1) := if_pos known
  unfold make?
  rw [checkedCeilDiv_eq positive word, before, Option.bind_eq_bind, Option.bind_some,
    Option.bind_eq_bind, Option.bind_some, bounds?_eq word]
  rfl

/-! ### The bounds of a page -/

theorem bounds_within (word : total ≤ greatestWord) (within : (page - 1) * perPage < total) :
    bounds page perPage total =
      ((page - 1) * perPage + 1, min ((page - 1) * perPage + perPage) total) := by
  have fits : (page - 1) * perPage ≤ greatestWord := by omega
  have held : min (min greatestWord ((page - 1) * perPage + perPage)) total =
      min ((page - 1) * perPage + perPage) total := by
    omega
  simp only [bounds, checkedMul, if_pos fits, if_pos within, saturatingAdd, held]

theorem bounds_beyond (beyond : total ≤ (page - 1) * perPage) :
    bounds page perPage total = (0, 0) := by
  unfold bounds checkedMul
  split
  · rename_i skipped found
    split at found
    · cases found
      exact if_neg (Nat.not_lt.mpr beyond)
    · cases found
  · rfl

/-- What a page says of itself, in numbers without a bound. -/
structure Exact (page perPage total : Nat) (info : PageInfo) : Prop where
  asked : info.page = page ∧ info.perPage = perPage ∧ info.total = total
  totalPages : info.totalPages = ⌈(total / perPage : ℚ)⌉₊
  hasMore : info.hasMore = true ↔ page * perPage < total
  within : (page - 1) * perPage < total →
    info.first = (page - 1) * perPage + 1 ∧ info.last = min (page * perPage) total
  beyond : total ≤ (page - 1) * perPage → info.first = 0 ∧ info.last = 0
  offset : 0 < info.first → info.offset = info.first - 1
  words : info.totalPages ≤ greatestWord ∧ info.first ≤ greatestWord ∧
    info.last ≤ greatestWord ∧ info.offset ≤ greatestWord

theorem mul_of_known (known : 1 ≤ page) : page * perPage = (page - 1) * perPage + perPage := by
  rw [← Nat.succ_mul, Nat.succ_eq_add_one, Nat.sub_add_cancel known]

theorem make_within (known : 1 ≤ page) (word : total ≤ greatestWord)
    (within : (page - 1) * perPage < total) :
    (make page perPage total).first = (page - 1) * perPage + 1 ∧
      (make page perPage total).last = min (page * perPage) total := by
  rw [mul_of_known known]
  exact Prod.mk.inj (bounds_within word within)

theorem make_beyond (beyond : total ≤ (page - 1) * perPage) :
    (make page perPage total).first = 0 ∧ (make page perPage total).last = 0 :=
  Prod.mk.inj (bounds_beyond beyond)

theorem within_of_first (some : 0 < (make page perPage total).first) :
    (page - 1) * perPage < total := by
  rcases Nat.lt_or_ge ((page - 1) * perPage) total with within | beyond
  · exact within
  · rw [(make_beyond beyond).1] at some
    cases some

theorem offset_within (word : total ≤ greatestWord) (within : (page - 1) * perPage < total) :
    (make page perPage total).offset = (page - 1) * perPage := by
  have fits : (page - 1) * perPage ≤ greatestWord := by omega
  exact Nat.min_eq_right fits

theorem hasMore_iff (positive : 1 ≤ perPage) :
    (make page perPage total).hasMore = true ↔ page * perPage < total := by
  rw [← lt_ceilDiv_iff positive]
  exact decide_eq_true_iff

theorem make_exact (known : 1 ≤ page) (positive : 1 ≤ perPage) (word : total ≤ greatestWord) :
    (make page perPage total).Exact page perPage total where
  asked := ⟨rfl, rfl, rfl⟩
  totalPages := ceilDiv_eq_ceil positive
  hasMore := hasMore_iff positive
  within := make_within known word
  beyond := make_beyond
  offset := by
    intro some
    have within := within_of_first some
    rw [offset_within word within, (make_within known word within).1, Nat.add_sub_cancel]
  words := by
    have pages : ceilDiv total perPage ≤ total :=
      (ceilDiv_le_iff positive).mpr (Nat.le_mul_of_pos_right total positive)
    refine ⟨Nat.le_trans pages word, ?_, ?_, Nat.min_le_left _ _⟩
    · rcases Nat.lt_or_ge ((page - 1) * perPage) total with within | beyond
      · rw [(make_within known word within).1]
        omega
      · rw [(make_beyond beyond).1]
        exact Nat.zero_le _
    · rcases Nat.lt_or_ge ((page - 1) * perPage) total with within | beyond
      · rw [(make_within known word within).2]
        omega
      · rw [(make_beyond beyond).2]
        exact Nat.zero_le _

theorem within_of_listed (positive : 1 ≤ perPage) (known : 1 ≤ page)
    (listed : page ≤ ceilDiv total perPage) : (page - 1) * perPage < total :=
  (lt_ceilDiv_iff positive).mp (by omega)

theorem shows_iff (known : 1 ≤ page) (positive : 1 ≤ perPage) (word : total ≤ greatestWord)
    {position : Nat} (counted : 1 ≤ position) :
    (make page perPage total).first ≤ position ∧ position ≤ (make page perPage total).last ↔
      position ≤ total ∧ (position - 1) / perPage = page - 1 := by
  rw [Nat.div_eq_iff positive]
  rcases Nat.lt_or_ge ((page - 1) * perPage) total with within | beyond
  · obtain ⟨first, last⟩ := make_within known word within
    rw [first, last, mul_of_known known]
    omega
  · obtain ⟨first, last⟩ := make_beyond beyond
    rw [first, last]
    omega

/-- The pages up to the last one hold some rows each, follow one another without a gap, and hold
each row once. -/
structure Tiling (perPage total : Nat) : Prop where
  some : ∀ page, 1 ≤ page → page ≤ ceilDiv total perPage →
    1 ≤ (make page perPage total).first ∧
      (make page perPage total).first ≤ (make page perPage total).last ∧
      (make page perPage total).last ≤ total
  adjacent : ∀ page, 1 ≤ page → page < ceilDiv total perPage →
    (make (page + 1) perPage total).first = (make page perPage total).last + 1
  each : ∀ position, 1 ≤ position → position ≤ total →
    ∃! page, (1 ≤ page ∧ page ≤ ceilDiv total perPage) ∧
      (make page perPage total).first ≤ position ∧ position ≤ (make page perPage total).last

theorem tiling (positive : 1 ≤ perPage) (word : total ≤ greatestWord) :
    Tiling perPage total where
  some := by
    intro page known listed
    have within := within_of_listed positive known listed
    obtain ⟨first, last⟩ := make_within known word within
    rw [first, last, mul_of_known known]
    omega
  adjacent := by
    intro page known listed
    have further : page * perPage < total := (lt_ceilDiv_iff positive).mp listed
    have within := within_of_listed positive known (Nat.le_of_lt listed)
    rw [(make_within (Nat.le_add_left 1 page) word further).1, (make_within known word within).2,
      Nat.min_eq_left (Nat.le_of_lt further), Nat.add_sub_cancel]
  each := by
    intro position counted inside
    have before : (position - 1) / perPage * perPage ≤ position - 1 := Nat.div_mul_le_self _ _
    have listed : (position - 1) / perPage < ceilDiv total perPage :=
      (lt_ceilDiv_iff positive).mpr (by omega)
    refine ⟨(position - 1) / perPage + 1, ⟨⟨Nat.le_add_left 1 _, listed⟩, ?_⟩, ?_⟩
    · exact (shows_iff (Nat.le_add_left 1 _) positive word counted).mpr ⟨inside, rfl⟩
    · intro page ⟨⟨known, _⟩, shown⟩
      have own := ((shows_iff known positive word counted).mp shown).2
      omega

end PageInfo

/-- The fields of a page are exact, up to the greatest page, size and total, and the pages up to the
last one partition the positions. -/
theorem page_arithmetic_is_exact (perPage total : Nat) (positive : 1 ≤ perPage)
    (word : total ≤ greatestWord) :
    (∀ page, 1 ≤ page →
      PageInfo.make? page perPage total = some (PageInfo.make page perPage total) ∧
        (PageInfo.make page perPage total).Exact page perPage total) ∧
      PageInfo.Tiling perPage total :=
  ⟨fun _ known =>
    ⟨PageInfo.make?_eq known positive word, PageInfo.make_exact known positive word⟩,
    PageInfo.tiling positive word⟩

/-- The last row of the longest table stands alone on its page, and the end of that page is cut. -/
theorem longest_table_is_exact :
    (PageInfo.make? 0x8000000000000000 2 greatestWord).isSome ∧
      (PageInfo.make 0x8000000000000000 2 greatestWord).first = greatestWord ∧
      (PageInfo.make 0x8000000000000000 2 greatestWord).last = greatestWord ∧
      PageInfo.Tiling 2 greatestWord := by
  obtain ⟨each, tiling⟩ :=
    page_arithmetic_is_exact 2 greatestWord (by decide) (Nat.le_refl greatestWord)
  obtain ⟨checked, exact⟩ := each 0x8000000000000000 (by decide)
  obtain ⟨first, last⟩ := exact.within (by decide)
  refine ⟨?_, ?_, ?_, tiling⟩
  · rw [checked]
    rfl
  · rw [first]
    decide
  · rw [last]
    decide

end BoundQuery
