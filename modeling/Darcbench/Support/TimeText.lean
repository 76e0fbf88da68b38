import Mathlib.Algebra.BigOperators.Group.Finset.Basic
import Mathlib.Algebra.Order.Group.Nat
import Mathlib.Data.List.Lex
import Mathlib.Data.String.Basic
import Mathlib.Tactic.NormNum

/-!
# Times as texts

The text form of a time with a numeric offset has 0, 3, 6 or 9 digits behind the
second, as many as the time needs.  In years of four digits the texts have the
order of the times all the same: the offset begins with a character that comes
before the point and before every digit.
-/

namespace Darcbench

/-! ## Digits -/

/-- The last decimal digits of a number, with leading zeros. -/
def digits : ℕ → ℕ → List Char
  | 0, _ => []
  | width + 1, n => digits width (n / 10) ++ [Nat.digitChar (n % 10)]

theorem digitChar_lt {a b : ℕ} (h : a < b) (hb : b < 10) :
    Nat.digitChar a < Nat.digitChar b := by
  have hall : ∀ b : Fin 10, ∀ a : Fin 10, a < b →
      Nat.digitChar a < Nat.digitChar b := by
    decide
  exact hall ⟨b, hb⟩ ⟨a, h.trans hb⟩ h

theorem plus_lt_digitChar {d : ℕ} (hd : d < 10) : '+' < Nat.digitChar d := by
  have hall : ∀ d : Fin 10, '+' < Nat.digitChar d := by decide
  exact hall ⟨d, hd⟩

/-- A smaller number comes first, whatever follows. -/
theorem digits_append_lt {width a b : ℕ} (h : a < b) (hb : b < 10 ^ width)
    (x y : List Char) : digits width a ++ x < digits width b ++ y := by
  induction width generalizing a b x y with
  | zero => omega
  | succ width ih =>
      rw [digits, digits, List.append_assoc, List.append_assoc]
      rcases Nat.lt_or_ge (a / 10) (b / 10) with hlt | hge
      · exact ih hlt (Nat.div_lt_of_lt_mul (by rwa [mul_comm, ← pow_succ])) _ _
      · have heq : a / 10 = b / 10 := by omega
        rw [heq]
        refine List.append_left_lt (List.cons_lt_cons_iff.mpr (.inl ?_))
        exact digitChar_lt (by omega) (Nat.mod_lt _ (by decide))

/-- The texts of two fields, the first of which decides. -/
theorem field_lt {width a b : ℕ} {x y : List Char} (hb : b < 10 ^ width)
    (h : a < b ∨ a = b ∧ x < y) :
    digits width a ++ x < digits width b ++ y := by
  rcases h with hlt | ⟨rfl, hlt⟩
  · exact digits_append_lt hlt hb x y
  · exact List.append_left_lt hlt

theorem cons_lt {a : Char} {x y : List Char} (h : x < y) : a :: x < a :: y :=
  List.cons_lt_cons_iff.mpr (.inr ⟨rfl, h⟩)

theorem digits_add (width width' n : ℕ) :
    digits (width + width') n =
      digits width (n / 10 ^ width') ++ digits width' n := by
  induction width' generalizing n with
  | zero => rw [pow_zero, Nat.div_one, digits, List.append_nil]; rfl
  | succ width' ih =>
      rw [← Nat.add_assoc, digits, ih, digits, List.append_assoc,
        Nat.div_div_eq_div_mul, ← pow_succ']

theorem digits_mod (width n : ℕ) :
    digits width (n % 10 ^ width) = digits width n := by
  induction width generalizing n with
  | zero => rfl
  | succ width ih =>
      have hdiv : n % 10 ^ (width + 1) / 10 = n / 10 % 10 ^ width := by
        rw [pow_succ', Nat.mod_mul_right_div_self]
      have hmod : n % 10 ^ (width + 1) % 10 = n % 10 :=
        Nat.mod_mod_of_dvd _ (dvd_pow_self 10 (Nat.succ_ne_zero width))
      rw [digits, digits, hdiv, hmod, ih]

/-- Quotients and remainders have the order of the numbers. -/
theorem div_lt_or_mod_lt {a b k : ℕ} (h : a < b) :
    a / k < b / k ∨ a / k = b / k ∧ a % k < b % k := by
  rcases (Nat.div_le_div_right h.le : a / k ≤ b / k).lt_or_eq with hlt | heq
  · exact .inl hlt
  · refine .inr ⟨heq, ?_⟩
    have ha := Nat.div_add_mod a k
    have hb := Nat.div_add_mod b k
    rw [heq] at ha
    omega

/-! ## Fractions of a second -/

def offset : List Char := ['+', '0', '0', ':', '0', '0']

/-- What follows the seconds. -/
def fractionText (nanos : ℕ) : List Char :=
  if nanos = 0 then offset
  else if nanos % 1000000 = 0 then
    '.' :: digits 3 (nanos / 1000000) ++ offset
  else if nanos % 1000 = 0 then '.' :: digits 6 (nanos / 1000) ++ offset
  else '.' :: digits 9 nanos ++ offset

/-- The digits of a fraction in groups of three, without the last groups if
they are zero. -/
def groups : ℕ → ℕ → List Char
  | 0, _ => offset
  | count + 1, n =>
      if n = 0 then offset
      else digits 3 (n / 1000 ^ count) ++ groups count (n % 1000 ^ count)

@[simp] theorem groups_zero (count : ℕ) : groups count 0 = offset := by
  cases count <;> rfl

theorem fractionText_eq {nanos : ℕ} (h : nanos ≠ 0) :
    fractionText nanos = '.' :: groups 3 nanos := by
  rw [fractionText, if_neg h, groups, if_neg h]
  have hmillis : nanos / 1000 / 1000 = nanos / 1000000 := by
    rw [Nat.div_div_eq_div_mul]
  have hmicros : digits 3 (nanos % 1000000 / 1000) =
      digits 3 (nanos / 1000) := by
    have hdiv : nanos % 1000000 / 1000 = nanos / 1000 % 10 ^ 3 := by omega
    rw [hdiv, digits_mod]
  by_cases hmilli : nanos % 1000000 = 0
  · rw [if_pos hmilli, show 1000 ^ 2 = 1000000 from rfl, hmilli, groups_zero]
    rfl
  · rw [if_neg hmilli, show 1000 ^ 2 = 1000000 from rfl, groups,
      if_neg hmilli, show 1000 ^ 1 = 1000 from rfl, hmicros]
    by_cases hmicro : nanos % 1000 = 0
    · have hrest : nanos % 1000000 % 1000 = 0 := by omega
      rw [if_pos hmicro, hrest, groups_zero, digits_add 3 3,
        show 10 ^ 3 = 1000 from rfl, hmillis]
      simp only [List.append_assoc, List.cons_append]
    · have hrest : nanos % 1000000 % 1000 = nanos % 1000 := by omega
      have hnanos : digits 3 (nanos % 1000) = digits 3 nanos :=
        digits_mod 3 nanos
      rw [if_neg hmicro, hrest, groups, if_neg hmicro,
        show 1000 ^ 0 = 1 from rfl, Nat.div_one, Nat.mod_one, groups, hnanos,
        digits_add 3 6, digits_add 3 3 nanos, show 10 ^ 3 = 1000 from rfl,
        show 10 ^ 6 = 1000000 from rfl]
      simp only [List.append_assoc, List.cons_append]

theorem offset_lt_digits (width n : ℕ) (x : List Char) :
    offset < digits (width + 1) n ++ x := by
  induction width generalizing n x with
  | zero =>
      exact List.cons_lt_cons_iff.mpr
        (.inl (plus_lt_digitChar (Nat.mod_lt _ (by decide))))
  | succ width ih =>
      rw [digits, List.append_assoc]
      exact ih _ _

theorem groups_lt {count a b : ℕ} (h : a < b) (hb : b < 1000 ^ count) :
    groups count a < groups count b := by
  induction count generalizing a b with
  | zero => omega
  | succ count ih =>
      rw [groups, groups, if_neg (Nat.ne_zero_of_lt h)]
      split
      · exact offset_lt_digits 2 _ _
      · refine field_lt ?_ ((div_lt_or_mod_lt h).imp_right
          (And.imp_right fun hmod => ih hmod ?_))
        · have hthousand : 1000 ^ count * 10 ^ 3 = 1000 ^ (count + 1) :=
            (pow_succ 1000 count).symm
          exact Nat.div_lt_of_lt_mul (hthousand ▸ hb)
        · exact Nat.mod_lt _ (Nat.pow_pos (by decide))

theorem fractionText_lt {a b : ℕ} (h : a < b) (hb : b < 1000000000) :
    fractionText a < fractionText b := by
  rw [fractionText_eq (Nat.ne_zero_of_lt h)]
  by_cases ha : a = 0
  · rw [ha]
    exact List.cons_lt_cons_iff.mpr (.inl (by decide))
  · rw [fractionText_eq ha]
    exact cons_lt (groups_lt h hb)

/-! ## The calendar -/

def isLeapYear (year : ℕ) : Bool :=
  year % 4 = 0 && year % 100 ≠ 0 || year % 400 = 0

def daysOfYear (year : ℕ) : ℕ :=
  if isLeapYear year then 366 else 365

/-- The days of a month, which is counted from one on. -/
def daysOfMonth (year month : ℕ) : ℕ :=
  match month with
  | 2 => if isLeapYear year then 29 else 28
  | 4 | 6 | 9 | 11 => 30
  | _ => 31

/-- Finds the period in which a day falls: the periods from `i` on have the
given lengths, and no more than `count` of them are passed. -/
def locate (length : ℕ → ℕ) : ℕ → ℕ → ℕ → ℕ × ℕ
  | 0, i, day => (i, day)
  | count + 1, i, day =>
      if day < length i then (i, day)
      else locate length count (i + 1) (day - length i)

variable {length : ℕ → ℕ}

theorem le_locate (count i day : ℕ) : i ≤ (locate length count i day).1 := by
  induction count generalizing i day with
  | zero => exact le_rfl
  | succ count ih =>
      rw [locate]
      split
      · exact le_rfl
      · exact (Nat.le_succ i).trans (ih _ _)

/-- A later day falls into a later period, or later into the same one. -/
theorem locate_lt {count i a b : ℕ} (h : a < b) :
    (locate length count i a).1 < (locate length count i b).1 ∨
      (locate length count i a).1 = (locate length count i b).1 ∧
        (locate length count i a).2 < (locate length count i b).2 := by
  induction count generalizing i a b with
  | zero => exact .inr ⟨rfl, h⟩
  | succ count ih =>
      rw [locate, locate]
      by_cases hb : b < length i
      · rw [if_pos (h.trans hb), if_pos hb]
        exact .inr ⟨rfl, h⟩
      · rw [if_neg hb]
        by_cases ha : a < length i
        · rw [if_pos ha]
          exact .inl (le_locate count (i + 1) _)
        · rw [if_neg ha]
          exact ih (by omega)

/-- Where the periods do not run out, the day falls into its period. -/
theorem locate_snd_lt {count i day : ℕ}
    (h : (locate length count i day).1 < i + count) :
    (locate length count i day).2 < length (locate length count i day).1 := by
  induction count generalizing i day with
  | zero => exact absurd h (lt_irrefl i)
  | succ count ih =>
      rw [locate] at h ⊢
      split
      · assumption
      · next hday =>
          rw [if_neg hday] at h
          exact ih (by omega)

/-- The periods do not run out on a day that falls into one of them. -/
theorem locate_fst_lt {count i day : ℕ}
    (h : day < ∑ j ∈ Finset.range count, length (i + j)) :
    (locate length count i day).1 < i + count := by
  induction count generalizing i day with
  | zero => exact absurd h (Nat.not_lt_zero day)
  | succ count ih =>
      rw [locate]
      split
      · omega
      · next hday =>
          have hrest : ∑ j ∈ Finset.range count, length (i + (j + 1)) =
              ∑ j ∈ Finset.range count, length (i + 1 + j) :=
            Finset.sum_congr rfl fun j _ => congrArg length (by omega)
          rw [Finset.sum_range_succ', Nat.add_zero, hrest] at h
          have hlt : (locate length count (i + 1) (day - length i)).1 <
              i + 1 + count := ih (by omega)
          omega

/-- The year of a day, counted from the first day of the year 0, and the day of
the year. -/
def yearAndDay (day : ℕ) : ℕ × ℕ :=
  locate daysOfYear 10000 0 day

/-- The month of a day of a year, and the day of the month. -/
def monthAndDay (year day : ℕ) : ℕ × ℕ :=
  locate (daysOfMonth year) 12 1 day

def dateText (day : ℕ) : List Char :=
  let date := yearAndDay day
  let rest := monthAndDay date.1 date.2
  digits 4 date.1 ++ '-' :: (digits 2 rest.1 ++ '-' :: digits 2 (rest.2 + 1))

theorem daysOfMonth_le (year month : ℕ) : daysOfMonth year month ≤ 31 := by
  unfold daysOfMonth
  split
  · split <;> decide
  all_goals decide

/-- The months of a year have as many days as the year. -/
theorem sum_daysOfMonth (year : ℕ) :
    ∑ j ∈ Finset.range 12, daysOfMonth year (1 + j) = daysOfYear year := by
  simp only [Finset.sum_range_succ, Finset.sum_range_zero, daysOfMonth,
    daysOfYear]
  split <;> rfl

theorem monthAndDay_bounds {year day : ℕ} (h : day < daysOfYear year) :
    (monthAndDay year day).1 < 13 ∧ (monthAndDay year day).2 < 31 := by
  have hmonth : (monthAndDay year day).1 < 1 + 12 :=
    locate_fst_lt (by rwa [sum_daysOfMonth])
  exact ⟨hmonth, (locate_snd_lt hmonth).trans_le (daysOfMonth_le year _)⟩

theorem length_digits (width n : ℕ) : (digits width n).length = width := by
  induction width generalizing n with
  | zero => rfl
  | succ width ih => rw [digits, List.length_append, ih]; rfl

theorem yearAndDay_snd_lt {day : ℕ} (h : (yearAndDay day).1 < 10000) :
    (yearAndDay day).2 < daysOfYear (yearAndDay day).1 :=
  locate_snd_lt (by rwa [Nat.zero_add])

/-- Dates of four-digit years have the order of their days, whatever
follows. -/
theorem dateText_append_lt {a b : ℕ} (hb : (yearAndDay b).1 < 10000)
    (h : a < b) (x y : List Char) : dateText a ++ x < dateText b ++ y := by
  have hyears : (yearAndDay a).1 < (yearAndDay b).1 ∨
      (yearAndDay a).1 = (yearAndDay b).1 ∧
        (yearAndDay a).2 < (yearAndDay b).2 :=
    locate_lt h
  simp only [dateText, List.append_assoc, List.cons_append]
  refine field_lt hb (hyears.imp_right fun ⟨hyear, hrest⟩ => ⟨hyear, ?_⟩)
  obtain ⟨hmonth, hday⟩ := monthAndDay_bounds (yearAndDay_snd_lt hb)
  rw [hyear]
  refine cons_lt (field_lt (hmonth.trans (by decide))
    ((locate_lt hrest).imp_right fun ⟨hsame, hdays⟩ => ⟨hsame, ?_⟩))
  exact cons_lt (digits_append_lt (Nat.succ_lt_succ hdays)
    (lt_of_le_of_lt hday (by decide)) x y)

/-! ## Times -/

def dayNanos : ℕ := 86400000000000

def hourNanos : ℕ := 3600000000000

def minuteNanos : ℕ := 60000000000

def secondNanos : ℕ := 1000000000

/-- The time of a day, with the offset. -/
def clockText (nanos : ℕ) : List Char :=
  digits 2 (nanos / hourNanos) ++ ':' ::
    (digits 2 (nanos % hourNanos / minuteNanos) ++ ':' ::
      (digits 2 (nanos % hourNanos % minuteNanos / secondNanos) ++
        fractionText (nanos % hourNanos % minuteNanos % secondNanos)))

/-- The start of the epoch, counted from the start of the year 0. -/
def epochNanos : ℤ := 719528 * 86400000000000

/-- The nanoseconds since the start of the year 0. -/
def sinceYearZero (t : ℤ) : ℕ :=
  (t + epochNanos).toNat

/-- The time, given by the nanoseconds since the epoch, lies in a year of four
digits. -/
def InYears (t : ℤ) : Prop :=
  0 ≤ t + epochNanos ∧ (yearAndDay (sinceYearZero t / dayNanos)).1 < 10000

instance (t : ℤ) : Decidable (InYears t) :=
  inferInstanceAs (Decidable (_ ∧ _))

/-- The text of a time in a year of four digits. -/
def timeText (t : ℤ) : String :=
  .ofList (dateText (sinceYearZero t / dayNanos) ++
    'T' :: clockText (sinceYearZero t % dayNanos))

theorem clockText_lt {a b : ℕ} (h : a < b) (hb : b < dayNanos) :
    clockText a < clockText b := by
  have hhour : b / hourNanos < 10 ^ 2 :=
    (Nat.div_lt_of_lt_mul (show b < hourNanos * 24 from hb)).trans (by decide)
  have hminute : b % hourNanos / minuteNanos < 10 ^ 2 :=
    (Nat.div_lt_of_lt_mul (show b % hourNanos < minuteNanos * 60 from
      Nat.mod_lt _ (by decide))).trans (by decide)
  have hsecond : b % hourNanos % minuteNanos / secondNanos < 10 ^ 2 :=
    (Nat.div_lt_of_lt_mul (show b % hourNanos % minuteNanos < secondNanos * 60
      from Nat.mod_lt _ (by decide))).trans (by decide)
  refine field_lt hhour ((div_lt_or_mod_lt h).imp_right
    (And.imp_right fun hrest => cons_lt ?_))
  refine field_lt hminute ((div_lt_or_mod_lt hrest).imp_right
    (And.imp_right fun hrest => cons_lt ?_))
  refine field_lt hsecond ((div_lt_or_mod_lt hrest).imp_right
    (And.imp_right fun hrest => ?_))
  exact fractionText_lt hrest (Nat.mod_lt _ (by decide))

/-- Texts of four-digit years are in the order of their times. -/
theorem timeText_lt {s t : ℤ} (hs : InYears s) (ht : InYears t) (h : s < t) :
    timeText s < timeText t := by
  have hlt : sinceYearZero s < sinceYearZero t := by
    have hs := hs.1
    rw [sinceYearZero, sinceYearZero]
    omega
  rw [String.lt_iff_toList_lt, timeText, timeText, String.toList_ofList,
    String.toList_ofList]
  rcases div_lt_or_mod_lt (k := dayNanos) hlt with hday | ⟨hday, hclock⟩
  · exact dateText_append_lt ht.2 hday _ _
  · rw [hday]
    exact List.append_left_lt
      (cons_lt (clockText_lt hclock (Nat.mod_lt _ (by decide))))

theorem timeText_lt_iff {s t : ℤ} (hs : InYears s) (ht : InYears t) :
    timeText s < timeText t ↔ s < t := by
  refine ⟨fun h => ?_, timeText_lt hs ht⟩
  rcases lt_trichotomy s t with hlt | rfl | hgt
  · exact hlt
  · exact absurd h (lt_irrefl _)
  · exact absurd (timeText_lt ht hs hgt) (lt_asymm h)

theorem timeText_le_iff {s t : ℤ} (hs : InYears s) (ht : InYears t) :
    timeText s ≤ timeText t ↔ s ≤ t := by
  rw [← not_lt, ← not_lt, timeText_lt_iff ht hs]

example : timeText 1735689600500000000 = "2025-01-01T00:00:00.500+00:00" := by
  decide +kernel

end Darcbench
