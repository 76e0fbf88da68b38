import Mathlib

/-!
# Rounding to double precision

Positive numbers are rounded to the nearest one with 53 binary digits, with ties
to the even one.  The operations of the model of `Float` compute this rounding
where neither an argument nor the result leaves the range of normal numbers.
-/

namespace Darcbench

namespace Rounding

/-! ## Rounding to an integer -/

/-- The nearest natural number, with ties to the even one. -/
def roundEven (x : ℚ) : ℕ :=
  let below := ⌊x⌋₊
  if x < below + 1 / 2 then below
  else if x = below + 1 / 2 then below + below % 2
  else below + 1

theorem roundEven_natCast (n : ℕ) : roundEven n = n := by
  have hlt : (n : ℚ) < (⌊(n : ℚ)⌋₊ : ℚ) + 1 / 2 := by
    rw [Nat.floor_natCast]
    linarith
  rw [roundEven, if_pos hlt, Nat.floor_natCast]

theorem roundEven_le_succ (x : ℚ) : roundEven x ≤ ⌊x⌋₊ + 1 := by
  rw [roundEven]
  split
  · omega
  · split
    · omega
    · omega

theorem floor_le_roundEven (x : ℚ) : ⌊x⌋₊ ≤ roundEven x := by
  rw [roundEven]
  split
  · omega
  · split
    · omega
    · omega

theorem roundEven_mono {x y : ℚ} (h : x ≤ y) : roundEven x ≤ roundEven y := by
  have hfloor : ⌊x⌋₊ ≤ ⌊y⌋₊ :=
    Nat.floor_mono h
  rcases hfloor.lt_or_eq with hlt | heq
  · exact (roundEven_le_succ x).trans
      ((Nat.succ_le_of_lt hlt).trans (floor_le_roundEven y))
  · rw [roundEven, roundEven, heq]
    by_cases hy : y < (⌊y⌋₊ : ℚ) + 1 / 2
    · rw [if_pos (h.trans_lt hy), if_pos hy]
    · rw [if_neg hy]
      by_cases hx : x < (⌊y⌋₊ : ℚ) + 1 / 2
      · rw [if_pos hx]
        split
        · omega
        · omega
      · rw [if_neg hx]
        by_cases hytie : y = (⌊y⌋₊ : ℚ) + 1 / 2
        · have hxtie : x = (⌊y⌋₊ : ℚ) + 1 / 2 :=
            (h.trans_eq hytie).antisymm (not_lt.mp hx)
          rw [if_pos hxtie, if_pos hytie]
        · rw [if_neg hytie]
          split
          · omega
          · omega

theorem le_roundEven {n : ℕ} {x : ℚ} (h : n ≤ x) : n ≤ roundEven x := by
  rw [← roundEven_natCast n]
  exact roundEven_mono h

theorem roundEven_le {n : ℕ} {x : ℚ} (h : x ≤ n) : roundEven x ≤ n := by
  rw [← roundEven_natCast n]
  exact roundEven_mono h

/-! ## Rounding to 53 digits -/

/-- The exponent at which a number has 53 digits before the point. -/
def unitExponent (x : ℚ) : ℤ :=
  Int.log 2 x - 52

/-- The digits of a number, rounded to the nearest. -/
def digits (x : ℚ) : ℕ :=
  roundEven (x / 2 ^ unitExponent x)

/-- The nearest number with 53 digits. -/
def rounded (x : ℚ) : ℚ :=
  digits x * 2 ^ unitExponent x

theorem zpow_add_two (a b : ℤ) : (2 : ℚ) ^ (a + b) = 2 ^ a * 2 ^ b :=
  zpow_add₀ two_ne_zero a b

theorem two_zpow_pos (e : ℤ) : (0 : ℚ) < 2 ^ e :=
  zpow_pos two_pos e

theorem digits_bounds {x : ℚ} (hx : 0 < x) :
    2 ^ 52 ≤ digits x ∧ digits x ≤ 2 ^ 53 := by
  have hlow : (2 : ℚ) ^ Int.log 2 x ≤ x :=
    Int.zpow_log_le_self Nat.one_lt_two hx
  have hhigh : x < (2 : ℚ) ^ (Int.log 2 x + 1) :=
    Int.lt_zpow_succ_log_self Nat.one_lt_two x
  have hsplit : ∀ k : ℤ, (2 : ℚ) ^ (k + unitExponent x) =
      2 ^ k * 2 ^ unitExponent x :=
    fun k => zpow_add_two k _
  have hl := hsplit 52
  have hh := hsplit 53
  have hlog : 52 + unitExponent x = Int.log 2 x := by
    rw [unitExponent]
    omega
  have hlog' : 53 + unitExponent x = Int.log 2 x + 1 := by
    rw [unitExponent]
    omega
  rw [hlog] at hl
  rw [hlog'] at hh
  constructor
  · apply le_roundEven
    rw [le_div_iff₀ (two_zpow_pos _)]
    push_cast
    exact hl.symm.trans_le hlow
  · apply roundEven_le
    rw [div_le_iff₀ (two_zpow_pos _)]
    push_cast
    exact (hhigh.trans_eq hh).le

theorem rounded_mono {x y : ℚ} (hx : 0 < x) (h : x ≤ y) :
    rounded x ≤ rounded y := by
  have hlog : unitExponent x ≤ unitExponent y :=
    Int.sub_le_sub_right (Int.log_mono_right hx h) 52
  rcases hlog.lt_or_eq with hlt | heq
  · -- The larger number has a digit more.
    have hpow : (2 : ℚ) ^ (53 + unitExponent x) ≤ 2 ^ (52 + unitExponent y) :=
      zpow_le_zpow_right₀ one_le_two (by omega)
    have hdigits : (digits x : ℚ) ≤ 2 ^ 53 :=
      mod_cast (digits_bounds hx).2
    have hdigits' : (2 : ℚ) ^ 52 ≤ digits y :=
      mod_cast (digits_bounds (hx.trans_le h)).1
    calc
      rounded x ≤ 2 ^ 53 * 2 ^ unitExponent x :=
        mul_le_mul_of_nonneg_right hdigits (two_zpow_pos _).le
      _ = 2 ^ (53 + unitExponent x) := (zpow_add_two 53 _).symm
      _ ≤ 2 ^ (52 + unitExponent y) := hpow
      _ = 2 ^ 52 * 2 ^ unitExponent y := zpow_add_two 52 _
      _ ≤ rounded y :=
        mul_le_mul_of_nonneg_right hdigits' (two_zpow_pos _).le
  · rw [rounded, rounded, digits, digits, heq]
    have hdigits := roundEven_mono
      (div_le_div_of_nonneg_right h (two_zpow_pos (unitExponent y)).le)
    exact mul_le_mul_of_nonneg_right (Nat.cast_le.mpr hdigits)
      (two_zpow_pos _).le

/-- Integers with few digits are not rounded. -/
theorem rounded_natCast {n : ℕ} (hpos : 0 < n) (h : n < 2 ^ 53) :
    rounded n = n := by
  have hcast : (0 : ℚ) < n :=
    Nat.cast_pos.mpr hpos
  have hlog : Int.log 2 (n : ℚ) < 53 := by
    rw [← Int.lt_zpow_iff_log_lt Nat.one_lt_two hcast]
    exact_mod_cast h
  obtain ⟨k, hk⟩ : ∃ k : ℕ, unitExponent n = -(k : ℤ) :=
    ⟨(-unitExponent n).toNat, by rw [unitExponent]; omega⟩
  have hscaled : (n : ℚ) / 2 ^ unitExponent (n : ℚ) = (n * 2 ^ k : ℕ) := by
    rw [hk, zpow_neg, div_inv_eq_mul, zpow_natCast]
    push_cast
    rfl
  rw [rounded, digits, hscaled, roundEven_natCast, ← hscaled,
    div_mul_cancel₀ _ (two_zpow_pos _).ne']

/-- Rounding does not depend on the unit. -/
theorem rounded_mul_two_zpow {x : ℚ} (hx : 0 < x) (k : ℤ) :
    rounded (x * 2 ^ k) = rounded x * 2 ^ k := by
  have hlog : Int.log 2 (x * 2 ^ k) = Int.log 2 x + k := by
    have hpos : 0 < x * 2 ^ k := mul_pos hx (two_zpow_pos k)
    apply le_antisymm
    · rw [← Int.lt_add_one_iff, ← Int.lt_zpow_iff_log_lt Nat.one_lt_two hpos,
        add_right_comm]
      push_cast
      rw [zpow_add_two _ k]
      exact mul_lt_mul_of_pos_right
        (mod_cast Int.lt_zpow_succ_log_self Nat.one_lt_two x) (two_zpow_pos k)
    · rw [← Int.zpow_le_iff_le_log Nat.one_lt_two hpos]
      push_cast
      rw [zpow_add_two]
      exact mul_le_mul_of_nonneg_right
        (mod_cast Int.zpow_log_le_self Nat.one_lt_two hx) (two_zpow_pos k).le
  have hunit : unitExponent (x * 2 ^ k) = unitExponent x + k := by
    rw [unitExponent, hlog, unitExponent]
    ring
  have hquotient : x * 2 ^ k / 2 ^ (unitExponent x + k) =
      x / 2 ^ unitExponent x := by
    rw [zpow_add_two]
    exact mul_div_mul_right _ _ (two_zpow_pos k).ne'
  rw [rounded, digits, hunit, hquotient, zpow_add_two, rounded, digits]
  ring

theorem rounded_two_zpow (k : ℤ) : rounded (2 ^ k) = 2 ^ k := by
  have hlog : Int.log 2 ((2 : ℚ) ^ k) = k :=
    mod_cast Int.log_zpow (R := ℚ) Nat.one_lt_two k
  have hquotient : (2 : ℚ) ^ k / 2 ^ unitExponent ((2 : ℚ) ^ k) =
      ((2 ^ 52 : ℕ) : ℚ) := by
    rw [unitExponent, hlog, ← zpow_sub₀ two_ne_zero]
    norm_num
  have hsplit : k = 52 + (k - 52) := by
    ring
  rw [rounded, digits, hquotient, roundEven_natCast, unitExponent, hlog]
  conv_rhs => rw [hsplit, zpow_add_two]
  norm_num

/-! ## The mantissa with its two further bits -/

open Float.Model Float.Model.UnpackedFloat

/-- The number is between two halves of the last digit, or is the lower one. -/
def Represents (em : ExtendedMantissa) (x : ℚ) : Prop :=
  let half : ℕ := 2 * em.mantissa + em.roundBit.toNat
  if em.stickyBit then half < 2 * x ∧ 2 * x < half + 1 else 2 * x = half

namespace Represents

variable {em : ExtendedMantissa} {x : ℚ}

theorem bounds (h : Represents em x) :
    (em.mantissa : ℚ) ≤ x ∧ x < em.mantissa + 1 := by
  obtain ⟨m, roundBit, stickyBit⟩ := em
  cases roundBit <;> cases stickyBit <;>
    simp only [Represents, Bool.toNat_false, Bool.toNat_true, if_true,
      Bool.false_eq_true, if_false, Nat.add_zero] at h ⊢ <;>
    push_cast at h <;> constructor <;> linarith

theorem floor_eq (h : Represents em x) : ⌊x⌋₊ = em.mantissa := by
  obtain ⟨hlow, hhigh⟩ := h.bounds
  exact (Nat.floor_eq_iff ((Nat.cast_nonneg _).trans hlow)).mpr ⟨hlow, hhigh⟩

theorem roundedMantissa_eq (h : Represents em x) :
    em.roundedMantissa = roundEven x := by
  rw [roundEven, h.floor_eq]
  obtain ⟨m, roundBit, stickyBit⟩ := em
  cases roundBit <;> cases stickyBit <;>
    simp only [Represents, Bool.toNat_false, Bool.toNat_true, if_true,
      Bool.false_eq_true, if_false, Nat.add_zero] at h ⊢ <;>
    push_cast at h
  · rw [if_pos (by linarith)]
    rfl
  · rw [if_pos (by linarith)]
    rfl
  · rw [if_neg (by linarith), if_pos (by linarith)]
    rfl
  · rw [if_neg (by linarith), if_neg (by linarith)]
    rfl

theorem shiftRightOne (h : Represents em x) :
    Represents em.shiftRightOne (x / 2) := by
  obtain ⟨m, roundBit, stickyBit⟩ := em
  have hhalf : 2 * (m / 2) + (m % 2 != 0).toNat = m := by
    rcases Nat.mod_two_eq_zero_or_one m with hm | hm <;> simp [hm] <;> omega
  simp only [Represents, ExtendedMantissa.shiftRightOne, hhalf] at h ⊢
  cases roundBit <;> cases stickyBit <;>
    simp only [Bool.toNat_false, Bool.toNat_true, if_true, Bool.or_false,
      Bool.or_true, Bool.false_eq_true, if_false, Nat.add_zero] at h ⊢ <;>
    push_cast at h
  · linarith
  · constructor <;> linarith
  · constructor <;> linarith
  · constructor <;> linarith

theorem shiftRight (h : Represents em x) (n : ℕ) :
    Represents (em >>> n) (x / 2 ^ n) := by
  change Represents (n.repeat ExtendedMantissa.shiftRightOne em) (x / 2 ^ n)
  induction n with
  | zero => simpa [Nat.repeat] using h
  | succ n ih =>
      rw [Nat.repeat, pow_succ, ← div_div]
      exact ih.shiftRightOne

theorem exact (m : ℕ) :
    Represents (ExtendedMantissa.ofMantissaAndAccuracy m .exact) m := by
  simp [Represents, ExtendedMantissa.ofMantissaAndAccuracy]

/-- A quotient with its remainder. -/
theorem fraction (m : ℕ) {d : ℕ} (hd : 0 < d) :
    Represents (ExtendedMantissa.ofMantissaAndAccuracy (m / d)
      (accuracyOfFraction (m % d) d)) ((m : ℚ) / d) := by
  have hdpos : (0 : ℚ) < d :=
    Nat.cast_pos.mpr hd
  have hdiv : (m : ℚ) / d = (m / d : ℕ) + ((m % d : ℕ) : ℚ) / d := by
    have hm : (m : ℚ) = (d : ℚ) * (m / d : ℕ) + (m % d : ℕ) :=
      mod_cast (Nat.div_add_mod m d).symm
    field_simp
    linarith
  have hrest : ((m % d : ℕ) : ℚ) < d :=
    Nat.cast_lt.mpr (Nat.mod_lt m hd)
  rw [hdiv, accuracyOfFraction]
  by_cases hzero : m % d = 0
  · rw [if_pos hzero, hzero]
    simpa using exact (m / d)
  · have hpos : (0 : ℚ) < (m % d : ℕ) :=
      Nat.cast_pos.mpr (Nat.pos_of_ne_zero hzero)
    have hquotient : (0 : ℚ) < ((m % d : ℕ) : ℚ) / d :=
      div_pos hpos hdpos
    rw [if_neg hzero]
    rcases lt_trichotomy (2 * (m % d)) d with hlt | heq | hgt
    · have hhalf : ((m % d : ℕ) : ℚ) / d < 1 / 2 := by
        rw [div_lt_iff₀ hdpos]
        have : (2 : ℚ) * (m % d : ℕ) < d := mod_cast hlt
        linarith
      rw [Nat.compare_eq_lt.mpr hlt]
      simp only [Represents, ExtendedMantissa.ofMantissaAndAccuracy,
        Bool.toNat_false, Nat.add_zero, if_true]
      push_cast
      constructor <;> linarith
    · have hhalf : ((m % d : ℕ) : ℚ) / d = 1 / 2 := by
        rw [div_eq_iff hdpos.ne']
        have : (2 : ℚ) * (m % d : ℕ) = d := mod_cast heq
        linarith
      rw [Nat.compare_eq_eq.mpr heq, hhalf]
      simp only [Represents, ExtendedMantissa.ofMantissaAndAccuracy,
        Bool.toNat_true, Bool.false_eq_true, if_false]
      push_cast
      ring
    · have hhalf : 1 / 2 < ((m % d : ℕ) : ℚ) / d := by
        rw [lt_div_iff₀ hdpos]
        have : (d : ℚ) < 2 * (m % d : ℕ) := mod_cast hgt
        linarith
      have hone : ((m % d : ℕ) : ℚ) / d < 1 :=
        (div_lt_one hdpos).mpr hrest
      rw [Nat.compare_eq_gt.mpr hgt]
      simp only [Represents, ExtendedMantissa.ofMantissaAndAccuracy,
        Bool.toNat_true, if_true]
      push_cast
      constructor <;> linarith

end Represents

/-! ## Normal numbers -/

/-- A positive number with 53 digits that is not near a limit of the range. -/
inductive IsNormal : UnpackedFloat → ℚ → Prop
  | intro (m : ℕ) (e : ℤ) (hpos : 0 < m) (hlow : 2 ^ 52 ≤ m)
      (hhigh : m < 2 ^ 53) (hmin : -1074 ≤ e) (hmax : e ≤ 970) :
      IsNormal (.finite .positive m e hpos) (m * 2 ^ e)

theorem log2_eq {m k : ℕ} (hlow : 2 ^ k ≤ m) (hhigh : m < 2 ^ (k + 1)) :
    m.log2 = k := by
  have hne : m ≠ 0 :=
    (Nat.two_pow_pos k |>.trans_le hlow).ne'
  rw [Nat.log2_eq_iff hne]
  exact ⟨hlow, hhigh⟩

/-- A number within the range, as its exponent shows. -/
def InRange (x : ℚ) : Prop :=
  0 < x ∧ -1000 ≤ Int.log 2 x ∧ Int.log 2 x ≤ 1000

theorem log_eq {m : ℕ} {x : ℚ} (hm : m ≠ 0) (hlow : (m : ℚ) ≤ x)
    (hhigh : x < m + 1) (e : ℤ) :
    Int.log 2 (x * 2 ^ e) = m.log2 + e := by
  have hmpos : (0 : ℚ) < m :=
    Nat.cast_pos.mpr (Nat.pos_of_ne_zero hm)
  have hpos : 0 < x * 2 ^ e :=
    mul_pos (hmpos.trans_le hlow) (two_zpow_pos e)
  have hfloor : (2 : ℚ) ^ (m.log2 : ℤ) ≤ x := by
    rw [zpow_natCast]
    exact (mod_cast Nat.log2_self_le hm : (2 : ℚ) ^ m.log2 ≤ m).trans hlow
  have hceil : x < (2 : ℚ) ^ ((m.log2 : ℤ) + 1) := by
    have hnat : m + 1 ≤ 2 ^ (m.log2 + 1) :=
      Nat.lt_log2_self
    have hcast : (m : ℚ) + 1 ≤ 2 ^ (m.log2 + 1) :=
      mod_cast hnat
    rw [← Nat.cast_succ, zpow_natCast]
    exact hhigh.trans_le hcast
  apply le_antisymm
  · rw [← Int.lt_add_one_iff, ← Int.lt_zpow_iff_log_lt Nat.one_lt_two hpos]
    rw [add_right_comm]
    push_cast
    rw [zpow_add_two _ e]
    exact mul_lt_mul_of_pos_right hceil (two_zpow_pos e)
  · rw [← Int.zpow_le_iff_le_log Nat.one_lt_two hpos]
    push_cast
    rw [zpow_add_two]
    exact mul_le_mul_of_nonneg_right hfloor (two_zpow_pos e).le

/-- Shifting to the exponent of the last digit. -/
theorem shiftToTargetExponent_eq {m : ℕ} {e k : ℤ} (acc : Accuracy) (n : ℕ)
    (hlog : (m.log2 : ℤ) = 52 + n) (hk : e + n = k) (hmin : -1074 ≤ k) :
    shiftToTargetExponent .binary64 m e acc =
      (ExtendedMantissa.ofMantissaAndAccuracy m acc >>> n, k) := by
  have hbits : (Format.binary64.mantissaBits : ℤ) = 53 := rfl
  have hexponent : Format.binary64.minExponent = -1074 := rfl
  have htarget : Format.binary64.targetExponent (totalExponent m e) = k := by
    rw [Format.targetExponent, totalExponent, hbits, hexponent]
    omega
  have hamount : (k - e).toNat = n := by
    omega
  rw [shiftToTargetExponent, htarget, shiftToExponent]
  simp only [hamount, hk]

theorem mantissa_ofMantissaAndAccuracy (m : ℕ) (acc : Accuracy) :
    (ExtendedMantissa.ofMantissaAndAccuracy m acc).mantissa = m := by
  cases acc with
  | exact => rfl
  | inexact order => cases order <;> rfl

theorem isNormal_roundWithAccuracy {m : ℕ} {e : ℤ} {acc : Accuracy} {x : ℚ}
    (h : Represents (ExtendedMantissa.ofMantissaAndAccuracy m acc) x)
    (hm : 2 ^ 52 ≤ m) (hrange : InRange (x * 2 ^ e)) :
    IsNormal (roundWithAccuracy .binary64 .positive m e acc)
      (rounded (x * 2 ^ e)) := by
  obtain ⟨hpos, hlow, hhigh⟩ := hrange
  have hne : m ≠ 0 :=
    (Nat.two_pow_pos 52 |>.trans_le hm).ne'
  have hbounds := h.bounds
  rw [mantissa_ofMantissaAndAccuracy] at hbounds
  have hlog := log_eq hne hbounds.1 hbounds.2 e
  have hbits : 52 ≤ m.log2 :=
    (Nat.le_log2 hne).mpr hm
  obtain ⟨n, hn⟩ := Nat.exists_eq_add_of_le hbits
  have hunit : unitExponent (x * 2 ^ e) = e + n := by
    rw [unitExponent, hlog, hn]
    push_cast
    ring
  have hscaled : x * 2 ^ e / 2 ^ unitExponent (x * 2 ^ e) = x / 2 ^ n := by
    rw [hunit, zpow_add_two, zpow_natCast]
    field_simp
  have hdigits : (ExtendedMantissa.ofMantissaAndAccuracy m acc >>> n).roundedMantissa =
      digits (x * 2 ^ e) := by
    rw [(h.shiftRight n).roundedMantissa_eq, digits, hscaled]
  have hmin : -1074 ≤ e + n := by
    omega
  have hfirst := @shiftToTargetExponent_eq m e (e + n) acc n
    (by omega) rfl hmin
  obtain ⟨hdlow, hdhigh⟩ := digits_bounds hpos
  have hdne : digits (x * 2 ^ e) ≠ 0 :=
    (Nat.two_pow_pos 52 |>.trans_le hdlow).ne'
  rw [roundWithAccuracy, hfirst]
  dsimp only
  rw [hdigits, rounded, hunit]
  rcases hdhigh.lt_or_eq with hlt | heq
  · have hsecond := @shiftToTargetExponent_eq (digits (x * 2 ^ e)) (e + n)
      (e + n) .exact 0 (by rw [log2_eq hdlow hlt]; rfl) (add_zero _) hmin
    have hmantissa : (ExtendedMantissa.ofMantissaAndAccuracy
        (digits (x * 2 ^ e)) .exact >>> 0).mantissa = digits (x * 2 ^ e) :=
      rfl
    simp only [hsecond, hmantissa, dif_neg hdne]
    exact .intro _ _ _ hdlow hlt hmin (by omega)
  · -- The carry shifts the digits once more.
    have hsecond := @shiftToTargetExponent_eq (digits (x * 2 ^ e)) (e + n)
      (e + n + 1) .exact 1 (by rw [heq, Nat.log2_two_pow]; rfl) rfl (by omega)
    have hmantissa : (ExtendedMantissa.ofMantissaAndAccuracy
        (digits (x * 2 ^ e)) .exact >>> 1).mantissa = 2 ^ 52 := by
      change digits (x * 2 ^ e) / 2 = 2 ^ 52
      omega
    have hvalue : (digits (x * 2 ^ e) : ℚ) * 2 ^ (e + n) =
        ((2 ^ 52 : ℕ) : ℚ) * 2 ^ (e + n + 1) := by
      rw [heq, zpow_add_two (e + n) 1]
      push_cast
      ring
    simp only [hsecond, hmantissa, hvalue]
    exact .intro _ _ _ le_rfl (by norm_num) (by omega) (by omega)

/-! ## Packing -/

/-- The sign is in front of the other two fields. -/
theorem ofBitVec_unpackSign_packComponents
    (sign : Sign) (exponent : BitVec 11) (mantissa : BitVec 52) :
    Sign.ofBitVec (unpackSign (packComponents .binary64 sign exponent mantissa)) =
      sign := by
  have hfront : ∀ front : BitVec 1,
      (front ++ exponent ++ mantissa).extractLsb' 63 1 = front := by
    intro front
    rw [BitVec.extractLsb'_append_eq_of_le (by decide),
      BitVec.extractLsb'_append_eq_of_le (by decide)]
    exact BitVec.extractLsb'_eq_self
  have hsign : unpackSign (packComponents .binary64 sign exponent mantissa) =
      sign.toBitVec :=
    hfront sign.toBitVec
  rw [hsign]
  cases sign <;> rfl

/-- The first digit of a normal number is left out. -/
theorem toNat_one_append (mantissa : BitVec 52) :
    (1#1 ++ mantissa).toNat = 2 ^ 52 + mantissa.toNat := by
  rw [BitVec.toNat_append, ← Nat.shiftLeft_add_eq_or_of_lt mantissa.isLt]
  simp [Nat.shiftLeft_eq]

theorem unpack_packComponents
    (sign : Sign) (exponent : BitVec 11) (mantissa : BitVec 52)
    (hlow : exponent ≠ 0#11) (hhigh : exponent ≠ -1#11) :
    UnpackedFloat.unpack .binary64 (packComponents .binary64 sign exponent mantissa) =
      .finite sign (2 ^ 52 + mantissa.toNat) (exponent.toNat - 1075)
        (Nat.add_pos_left (Nat.two_pow_pos 52) _) := by
  rw [UnpackedFloat.unpack]
  simp only [unpackMantissa_packComponents, unpackExponent_packComponents,
    ofBitVec_unpackSign_packComponents, if_neg hhigh, if_neg hlow,
    toNat_one_append]
  rfl

namespace IsNormal

/-- Packing loses nothing of a normal number. -/
theorem unpack_pack {u : UnpackedFloat} {x : ℚ} (h : IsNormal u x) :
    UnpackedFloat.unpack .binary64 (UnpackedFloat.pack .binary64 u) = u := by
  obtain ⟨m, e, hpos, hlow, hhigh, hmin, hmax⟩ := h
  obtain ⟨k, hk⟩ : ∃ k : ℕ, e = k - 1075 :=
    ⟨(e + 1075).toNat, by omega⟩
  have hbiased : (e + (Format.binary64.exponentBias : ℤ) +
      (Format.binary64.mantissaBitsWithoutImplicit : ℤ)).toNat = k := by
    change (e + ((1023 : ℕ) : ℤ) + ((52 : ℕ) : ℤ)).toNat = k
    omega
  have hexponent : (BitVec.ofNat 11 k).toNat = k := by
    rw [BitVec.toNat_ofNat, Nat.mod_eq_of_lt (by omega)]
  have hzero : BitVec.ofNat 11 k ≠ 0#11 := by
    intro h
    have := congrArg BitVec.toNat h
    rw [hexponent] at this
    simp at this
    omega
  have hones : BitVec.ofNat 11 k ≠ -1#11 := by
    intro h
    have := congrArg BitVec.toNat h
    rw [hexponent] at this
    simp at this
    omega
  have hmantissa : 2 ^ 52 + (BitVec.ofNat 52 m).toNat = m := by
    rw [BitVec.toNat_ofNat]
    omega
  have hpack : UnpackedFloat.pack .binary64 (.finite .positive m e hpos) =
      packComponents .binary64 .positive (BitVec.ofNat 11 k)
        (BitVec.ofNat 52 m) := by
    rw [UnpackedFloat.pack]
    simp only [hbiased, log2_eq hlow hhigh]
    rw [if_neg (by omega)]
    exact if_pos rfl
  rw [hpack, unpack_packComponents _ _ _ hzero hones]
  simp only [hmantissa, hexponent, ← hk]

end IsNormal

/-! ## Products and quotients -/

namespace IsNormal

variable {a b : UnpackedFloat} {x y : ℚ}

theorem pos (h : IsNormal a x) : 0 < x := by
  obtain ⟨m, e, hpos, -⟩ := h
  exact mul_pos (Nat.cast_pos.mpr hpos) (two_zpow_pos e)

theorem mul (ha : IsNormal a x) (hb : IsNormal b y)
    (hrange : InRange (x * y)) :
    IsNormal (UnpackedFloat.mul .binary64 a b) (rounded (x * y)) := by
  obtain ⟨m, e, -, hlow, -⟩ := ha
  obtain ⟨n, f, -, hlow', -⟩ := hb
  have hvalue : (m : ℚ) * 2 ^ e * (n * 2 ^ f) =
      ((m * n : ℕ) : ℚ) * 2 ^ (e + f) := by
    rw [zpow_add_two]
    push_cast
    ring
  have hproduct : 2 ^ 52 ≤ m * n :=
    hlow.trans (Nat.le_mul_of_pos_right m (Nat.two_pow_pos 52 |>.trans_le hlow'))
  rw [hvalue] at hrange ⊢
  exact isNormal_roundWithAccuracy (Represents.exact (m * n)) hproduct hrange

theorem div (ha : IsNormal a x) (hb : IsNormal b y)
    (hrange : InRange (x / y)) :
    IsNormal (UnpackedFloat.div .binary64 a b) (rounded (x / y)) := by
  obtain ⟨m, e, hmpos, hlow, hhigh, -⟩ := ha
  obtain ⟨n, f, hnpos, hlow', hhigh', -⟩ := hb
  have hn : (0 : ℚ) < n :=
    Nat.cast_pos.mpr hnpos
  have hvalue : (m : ℚ) * 2 ^ e / (n * 2 ^ f) =
      ((m * 2 ^ 53 : ℕ) : ℚ) / n * 2 ^ (e - f - 53) := by
    rw [sub_sub, zpow_sub₀ two_ne_zero, zpow_add_two]
    push_cast
    have hf := (two_zpow_pos f).ne'
    field_simp
  have hexponent : -1000 ≤ e - f := by
    have hlt : (m : ℚ) * 2 ^ e / (n * 2 ^ f) < 2 ^ (e - f + 1) := by
      have hcast : (m : ℚ) < 2 * n :=
        mod_cast (by omega : m < 2 * n)
      rw [div_lt_iff₀ (mul_pos hn (two_zpow_pos f)), zpow_add_two, zpow_sub₀ two_ne_zero]
      have hf := (two_zpow_pos f).ne'
      have he := two_zpow_pos e
      field_simp
      linarith
    have hlog := (Int.lt_zpow_iff_log_lt Nat.one_lt_two hrange.1).mp
      (mod_cast hlt)
    have hmin := hrange.2.1
    omega
  have htarget : min (e - f) (Format.binary64.targetExponent
      (totalExponent m e - totalExponent n f)) = e - f - 53 := by
    have hbits : (Format.binary64.mantissaBits : ℤ) = 53 := rfl
    have hminimal : Format.binary64.minExponent = -1074 := rfl
    rw [Format.targetExponent, totalExponent, totalExponent, hbits, hminimal,
      log2_eq hlow hhigh, log2_eq hlow' hhigh']
    omega
  have hamount : (e - f - (e - f - 53)).toNat = 53 := by
    omega
  have hquotient : 2 ^ 52 ≤ m * 2 ^ 53 / n := by
    rw [Nat.le_div_iff_mul_le hnpos]
    calc
      2 ^ 52 * n ≤ 2 ^ 52 * 2 ^ 53 := Nat.mul_le_mul_left _ hhigh'.le
      _ ≤ m * 2 ^ 53 := Nat.mul_le_mul_right _ hlow
  have hdiv : UnpackedFloat.div .binary64 (.finite .positive m e hmpos)
      (.finite .positive n f hnpos) =
        roundWithAccuracy .binary64 .positive (m * 2 ^ 53 / n) (e - f - 53)
          (accuracyOfFraction (m * 2 ^ 53 % n) n) := by
    rw [UnpackedFloat.div, divCore]
    simp only [htarget, hamount, Nat.shiftLeft_eq]
    rfl
  rw [hdiv]
  rw [hvalue] at hrange ⊢
  exact isNormal_roundWithAccuracy (Represents.fraction _ hnpos) hquotient
    hrange

theorem add (ha : IsNormal a x) (hb : IsNormal b y)
    (hrange : InRange (x + y)) :
    IsNormal (UnpackedFloat.add .binary64 a b) (rounded (x + y)) := by
  obtain ⟨m, e, hmpos, hlow, -, hmin, -⟩ := ha
  obtain ⟨n, f, hnpos, hlow', -, hmin', -⟩ := hb
  generalize hleast : min e f = g
  obtain ⟨i, rfl⟩ : ∃ i : ℕ, e = g + i :=
    Int.le.dest (hleast ▸ min_le_left e f) |>.imp fun _ h => h.symm
  obtain ⟨j, rfl⟩ : ∃ j : ℕ, f = g + j :=
    Int.le.dest (hleast ▸ min_le_right _ f) |>.imp fun _ h => h.symm
  have hvalue : (m : ℚ) * 2 ^ (g + i) + n * 2 ^ (g + j) =
      ((m * 2 ^ i + n * 2 ^ j : ℕ) : ℚ) * 2 ^ g := by
    rw [zpow_add_two, zpow_add_two, zpow_natCast, zpow_natCast]
    push_cast
    ring
  have hsum : 2 ^ 52 ≤ m * 2 ^ i + n * 2 ^ j :=
    (hlow.trans (Nat.le_mul_of_pos_right m (Nat.two_pow_pos i))).trans
      (Nat.le_add_right _ _)
  have hlog : 52 ≤ (m * 2 ^ i + n * 2 ^ j).log2 :=
    (Nat.le_log2 (by omega)).mpr hsum
  have htarget : (g - Format.binary64.targetExponent
      (totalExponent (m * 2 ^ i + n * 2 ^ j) (g))).toNat = 0 := by
    have hbits : (Format.binary64.mantissaBits : ℤ) = 53 := rfl
    have hexponent : Format.binary64.minExponent = -1074 := rfl
    rw [Format.targetExponent, totalExponent, hbits, hexponent]
    omega
  have hpositive : compare (((m * 2 ^ i : ℕ) : ℤ) + (n * 2 ^ j : ℕ)) 0 =
      .gt := by
    rw [Int.compare_eq_gt]
    positivity
  have hround : UnpackedFloat.add .binary64 (.finite .positive m (g + i) hmpos)
      (.finite .positive n (g + j) hnpos) =
        roundWithAccuracy .binary64 .positive
        (m * 2 ^ i + n * 2 ^ j) g .exact := by
    simp only [UnpackedFloat.add, hleast, decreaseExponent, Nat.shiftLeft_eq,
      add_sub_cancel_left, Int.toNat_natCast, Sign.apply,
      UnpackedFloat.normalize, hpositive, UnpackedFloat.round]
    rw [← Nat.cast_add, Int.toNat_natCast, htarget]
    simp
  rw [hround, hvalue]
  rw [hvalue] at hrange
  exact isNormal_roundWithAccuracy (Represents.exact _) hsum hrange

/-- The greater of two numbers with 53 digits does not have the smaller
exponent. -/
theorem exponent_le_of_le {m n : ℕ} {e f : ℤ} (hlow : 2 ^ 52 ≤ m)
    (hhigh : n < 2 ^ 53) (h : (m : ℚ) * 2 ^ e ≤ n * 2 ^ f) : e ≤ f := by
  by_contra hgt
  have hpow : (2 : ℚ) ^ (53 + f) ≤ 2 ^ (52 + e) :=
    zpow_le_zpow_right₀ one_le_two (by omega)
  have hm : (2 : ℚ) ^ 52 ≤ m := mod_cast hlow
  have hn : (n : ℚ) < 2 ^ 53 := mod_cast hhigh
  have hlt : (n : ℚ) * 2 ^ f < m * 2 ^ e := by
    calc
      (n : ℚ) * 2 ^ f < 2 ^ 53 * 2 ^ f :=
        mul_lt_mul_of_pos_right hn (two_zpow_pos f)
      _ = 2 ^ (53 + f) := (zpow_add_two 53 f).symm
      _ ≤ 2 ^ (52 + e) := hpow
      _ = 2 ^ 52 * 2 ^ e := zpow_add_two 52 e
      _ ≤ m * 2 ^ e := mul_le_mul_of_nonneg_right hm (two_zpow_pos e).le
  exact hlt.not_ge h

theorem le (ha : IsNormal a x) (hb : IsNormal b y) (h : x ≤ y) :
    a.le b = true := by
  obtain ⟨m, e, hmpos, hlow, hhigh, -⟩ := ha
  obtain ⟨n, f, hnpos, hlow', hhigh', -⟩ := hb
  have hexponent : e ≤ f := exponent_le_of_le hlow hhigh' h
  rw [UnpackedFloat.le, UnpackedFloat.compare]
  rcases hexponent.lt_or_eq with hlt | rfl
  · rw [Int.compare_eq_lt.mpr hlt]
    rfl
  · have hmantissa : m ≤ n :=
      Nat.cast_le.mp (le_of_mul_le_mul_right h (two_zpow_pos e))
    rw [Int.compare_eq_eq.mpr rfl]
    rcases hmantissa.lt_or_eq with hlt | rfl
    · rw [Nat.compare_eq_lt.mpr hlt]
      rfl
    · rw [Nat.compare_eq_eq.mpr rfl]
      rfl

theorem lt (ha : IsNormal a x) (hb : IsNormal b y) (h : x < y) :
    a.lt b = true := by
  obtain ⟨m, e, hmpos, hlow, hhigh, -⟩ := ha
  obtain ⟨n, f, hnpos, hlow', hhigh', -⟩ := hb
  have hexponent : e ≤ f := exponent_le_of_le hlow hhigh' h.le
  rw [UnpackedFloat.lt, UnpackedFloat.compare]
  rcases hexponent.lt_or_eq with hlt | rfl
  · rw [Int.compare_eq_lt.mpr hlt]
    rfl
  · have hmantissa : m < n :=
      Nat.cast_lt.mp (lt_of_mul_lt_mul_right h (two_zpow_pos e).le)
    rw [Int.compare_eq_eq.mpr rfl, Nat.compare_eq_lt.mpr hmantissa]
    rfl

theorem lt_eq_false (ha : IsNormal a x) (hb : IsNormal b y) (h : x ≤ y) :
    b.lt a = false := by
  obtain ⟨m, e, hmpos, hlow, hhigh, -⟩ := ha
  obtain ⟨n, f, hnpos, hlow', hhigh', -⟩ := hb
  have hexponent : e ≤ f := exponent_le_of_le hlow hhigh' h
  rw [UnpackedFloat.lt, UnpackedFloat.compare]
  rcases hexponent.lt_or_eq with hlt | rfl
  · rw [Int.compare_eq_gt.mpr hlt]
    rfl
  · have hmantissa : m ≤ n :=
      Nat.cast_le.mp (le_of_mul_le_mul_right h (two_zpow_pos e))
    rw [Int.compare_eq_eq.mpr rfl]
    rcases hmantissa.lt_or_eq with hlt | rfl
    · rw [Nat.compare_eq_gt.mpr hlt]
      rfl
    · rw [Nat.compare_eq_eq.mpr rfl]
      rfl

/-- The conversion of a positive number cuts it off, and saturates. -/
theorem exists_toUInt64_eq (h : IsNormal a x) :
    ∃ k : ℕ, (k : ℚ) ≤ x ∧ x < k + 1 ∧
      a.toUInt64.toNat = min k (2 ^ 64 - 1) := by
  obtain ⟨m, e, hpos, -⟩ := h
  have hsplit : e = (e - 0).toNat - (0 - (e - (e - 0).toNat)).toNat := by
    omega
  have hvalue : (m : ℚ) * 2 ^ e = ((m * 2 ^ (e - 0).toNat : ℕ) : ℚ) /
      2 ^ (0 - (e - (e - 0).toNat)).toNat := by
    conv_lhs => rw [hsplit, zpow_sub₀ two_ne_zero, zpow_natCast, zpow_natCast]
    push_cast
    ring
  have hbounds := ((Represents.exact (m * 2 ^ (e - 0).toNat)).shiftRight
    (0 - (e - (e - 0).toNat)).toNat).bounds
  rw [← hvalue] at hbounds
  have htoInt : (UnpackedFloat.finite .positive m e hpos).toInt 0
      (UInt64.size - 1) = (ExtendedMantissa.ofMantissaAndAccuracy
        (m * 2 ^ (e - 0).toNat) .exact >>>
          (0 - (e - (e - 0).toNat)).toNat).mantissa := by
    simp only [toInt, roundToInt, decreaseExponent, shiftToExponent,
      Nat.shiftLeft_eq]
    rfl
  refine ⟨_, hbounds.1, hbounds.2, ?_⟩
  rw [UnpackedFloat.toUInt64, htoInt, Int.toNat_natCast, UInt64.ofNatClamp]
  split
  · next hlt => exact (min_eq_left (Nat.le_sub_one_of_lt hlt)).symm
  · next hge =>
      exact (min_eq_right (Nat.sub_le_of_le_add
        ((not_lt.mp hge).trans (Nat.le_add_right _ _)))).symm

/-- The integer part is at least every integer below the number. -/
theorem le_toUInt64 {k : ℕ} (h : IsNormal a x) (hk : k ≤ x)
    (hsize : k < 2 ^ 64) : k ≤ a.toUInt64.toNat := by
  obtain ⟨n, -, hn, heq⟩ := h.exists_toUInt64_eq
  have hle : k ≤ n :=
    Nat.lt_succ_iff.mp (mod_cast hk.trans_lt hn)
  rw [heq]
  exact le_min hle (Nat.le_sub_one_of_lt hsize)

end IsNormal

/-! ## Machine numbers -/

/-- The machine number is this positive number. -/
def Holds (a : Float) (x : ℚ) : Prop :=
  IsNormal a.toModel.unpack x

namespace Holds

variable {a b : Float} {x y : ℚ}

theorem of_pack {u : UnpackedFloat} (h : IsNormal u x) :
    Holds (.ofModel (.pack u)) x := by
  have hunpack : (Float.Model.pack u).unpack = u :=
    h.unpack_pack
  rw [Holds, hunpack]
  exact h

theorem mul (ha : Holds a x) (hb : Holds b y) (hrange : InRange (x * y)) :
    Holds (a * b) (rounded (x * y)) :=
  of_pack (IsNormal.mul ha hb hrange)

theorem div (ha : Holds a x) (hb : Holds b y) (hrange : InRange (x / y)) :
    Holds (a / b) (rounded (x / y)) :=
  of_pack (IsNormal.div ha hb hrange)

theorem add (ha : Holds a x) (hb : Holds b y)
    (hrange : InRange (x + y)) : Holds (a + b) (rounded (x + y)) :=
  of_pack (IsNormal.add ha hb hrange)

theorem le (ha : Holds a x) (hb : Holds b y) (h : x ≤ y) : a ≤ b := by
  exact decide_eq_true (IsNormal.le ha hb h)

theorem lt (ha : Holds a x) (hb : Holds b y) (h : x < y) : a < b := by
  exact decide_eq_true (IsNormal.lt ha hb h)

theorem not_below (ha : Holds a x) (hb : Holds b y) (h : x ≤ y) : ¬ b < a := by
  intro hlt
  have hlt : b.toModel.unpack.lt a.toModel.unpack = true :=
    of_decide_eq_true hlt
  rw [IsNormal.lt_eq_false ha hb h] at hlt
  exact Bool.false_ne_true hlt

theorem le_toUInt64 {k : ℕ} (h : Holds a x) (hk : k ≤ x)
    (hsize : k < 2 ^ 64) : k ≤ a.toUInt64.toNat :=
  IsNormal.le_toUInt64 h hk hsize

/-- The conversion of a fraction is the quotient without the rest. -/
theorem toUInt64_eq_div {n d : ℕ} (h : Holds a (n / d)) (hd : 0 < d)
    (hsize : n / d < 2 ^ 64) : a.toUInt64.toNat = n / d := by
  obtain ⟨k, hlow, hhigh, heq⟩ := IsNormal.exists_toUInt64_eq h
  have hpos : (0 : ℚ) < d := Nat.cast_pos.mpr hd
  rw [le_div_iff₀ hpos] at hlow
  rw [div_lt_iff₀ hpos] at hhigh
  have hquotient : n / d = k :=
    Nat.div_eq_of_lt_le (mod_cast hlow) (mod_cast hhigh)
  have hfits : k ≤ 2 ^ 64 - 1 := by
    omega
  rw [hquotient]
  exact heq.trans (min_eq_left hfits)

end Holds

theorem inRange_of_le {x : ℚ} {j k : ℤ} (hj : -1000 ≤ j) (hk : k ≤ 1000)
    (hlow : 2 ^ j ≤ x) (hhigh : x ≤ 2 ^ k) : InRange x := by
  have hpos : 0 < x :=
    (two_zpow_pos j).trans_le hlow
  have hmin : j ≤ Int.log 2 x :=
    (Int.zpow_le_iff_le_log Nat.one_lt_two hpos).mp (mod_cast hlow)
  have hmax : Int.log 2 x < k + 1 := by
    refine (Int.lt_zpow_iff_log_lt Nat.one_lt_two hpos).mp ?_
    push_cast
    exact hhigh.trans_lt (zpow_lt_zpow_right₀ one_lt_two (Int.lt_succ k))
  exact ⟨hpos, by omega, by omega⟩

theorem inRange_natCast {n : ℕ} (hpos : 0 < n) (h : n < 2 ^ 64) :
    InRange n := by
  have hone : (1 : ℚ) ≤ n :=
    Nat.one_le_cast.mpr hpos
  have hsize : (n : ℚ) ≤ 2 ^ 64 :=
    mod_cast h.le
  refine @inRange_of_le _ 0 64 (by norm_num) (by norm_num) ?_ ?_
  · rwa [zpow_zero]
  · exact_mod_cast hsize

/-- A 64-bit integer is between the same limits after rounding. -/
theorem rounded_natCast_bounds {n : ℕ} (hpos : 0 < n) (h : n < 2 ^ 64) :
    1 ≤ rounded n ∧ rounded n ≤ 2 ^ 64 := by
  have hone : (1 : ℚ) ≤ n :=
    Nat.one_le_cast.mpr hpos
  have hlow := rounded_mono one_pos hone
  have hexact := rounded_natCast Nat.one_pos (by norm_num)
  rw [Nat.cast_one] at hexact
  rw [hexact] at hlow
  have hcast : (0 : ℚ) < n :=
    one_pos.trans_le hone
  have hlog : Int.log 2 (n : ℚ) < 64 := by
    rw [← Int.lt_zpow_iff_log_lt Nat.one_lt_two hcast]
    exact_mod_cast h
  have hpow : (2 : ℚ) ^ unitExponent (n : ℚ) ≤ 2 ^ (11 : ℤ) :=
    zpow_le_zpow_right₀ one_le_two (by rw [unitExponent]; omega)
  have hdigits : (digits (n : ℚ) : ℚ) ≤ 2 ^ 53 :=
    mod_cast (digits_bounds hcast).2
  refine ⟨hlow, ?_⟩
  calc
    rounded n ≤ 2 ^ 53 * 2 ^ (11 : ℤ) :=
      mul_le_mul hdigits hpow (two_zpow_pos _).le (by norm_num)
    _ = 2 ^ 64 := by norm_num

/-- The conversion of an integer with few digits, which is not rounded. -/
theorem isNormal_round {n : ℕ} (hpos : 0 < n) (h : n < 2 ^ 53) :
    IsNormal (UnpackedFloat.round .binary64 .positive n 0) n := by
  have hlog : n.log2 < 53 :=
    (Nat.log2_lt hpos.ne').mpr h
  have htarget : Format.binary64.targetExponent (totalExponent n 0) =
      (n.log2 : ℤ) - 52 := by
    have hbits : (Format.binary64.mantissaBits : ℤ) = 53 := rfl
    have hminimal : Format.binary64.minExponent = -1074 := rfl
    rw [Format.targetExponent, totalExponent, hbits, hminimal]
    omega
  obtain ⟨k, hk⟩ := Nat.exists_eq_add_of_le (Nat.lt_succ_iff.mp hlog)
  have hamount : (0 - ((n.log2 : ℤ) - 52)).toNat = k := by
    omega
  have hround : UnpackedFloat.round .binary64 .positive n 0 =
      roundWithAccuracy .binary64 .positive (n * 2 ^ k) (0 - k) .exact := by
    simp only [UnpackedFloat.round, decreaseExponent, htarget, hamount,
      Nat.shiftLeft_eq]
  have hvalue : ((n * 2 ^ k : ℕ) : ℚ) * 2 ^ (0 - k : ℤ) = n := by
    rw [zero_sub, zpow_neg, zpow_natCast]
    push_cast
    field_simp
  have hlow : 2 ^ 52 ≤ n * 2 ^ k := by
    calc
      2 ^ 52 = 2 ^ n.log2 * 2 ^ k := by rw [← pow_add, ← hk]
      _ ≤ n * 2 ^ k := Nat.mul_le_mul_right _ (Nat.log2_self_le hpos.ne')
  have hnormal := isNormal_roundWithAccuracy (Represents.exact (n * 2 ^ k)) hlow
    (hvalue.symm ▸ inRange_natCast hpos (h.trans (by norm_num)))
  rw [hvalue, rounded_natCast hpos h] at hnormal
  rw [hround]
  exact hnormal

theorem holds_one : Holds (Float.ofBits 0x3FF0000000000000) 1 := by
  have hone : (1 : ℚ) = ((2 ^ 52 : ℕ) : ℚ) * 2 ^ (-52 : ℤ) := by
    norm_num
  have hunpack : (Float.ofBits 0x3FF0000000000000).toModel.unpack =
      .finite .positive (2 ^ 52) (-52) (Nat.two_pow_pos 52) :=
    rfl
  rw [Holds, hunpack, hone]
  exact .intro _ _ _ le_rfl (by norm_num) (by norm_num) (by norm_num)

/-- The conversion of a 64-bit integer. -/
theorem holds_ofNat {n : ℕ} (hpos : 0 < n) (h : n < 2 ^ 64) :
    Holds (Float.ofNat n) (rounded n) := by
  by_cases hsmall : n < 2 ^ 53
  · have hsize : n.toUInt64.toNat = n := by
      rw [Nat.toUInt64_eq, UInt64.toNat_ofNat', Nat.mod_eq_of_lt h]
    have hfloat : Holds n.toUInt64.toFloat n := by
      have hnormal := isNormal_round hpos hsmall
      have hconvert : n.toUInt64.toFloat = .ofModel (.pack
          (UnpackedFloat.ofInt .binary64 n)) := by
        conv_rhs => rw [← hsize]
        rfl
      have hpositive : compare (n : ℤ) 0 = .gt :=
        Int.compare_eq_gt.mpr (mod_cast hpos)
      rw [hconvert, UnpackedFloat.ofInt, UnpackedFloat.normalize, hpositive]
      exact .of_pack hnormal
    have hproduct := hfloat.mul holds_one
      (by rw [mul_one]; exact inRange_natCast hpos h)
    rw [mul_one] at hproduct
    have hofNat : Float.ofNat n =
        n.toUInt64.toFloat * Float.ofBits 0x3FF0000000000000 :=
      dif_pos ⟨hsmall, by decide⟩
    rw [hofNat]
    exact hproduct
  · have hlarge : 2 ^ 53 ≤ n :=
      not_lt.mp hsmall
    have hscientific : UnpackedFloat.ofScientific .binary64 n 0 =
        roundWithAccuracy .binary64 .positive (n * 2 ^ 53) (-53) .exact := by
      have hbits : Format.binary64.mantissaBits = 53 := rfl
      have hsafe : (0 : ℤ) ≤ 2 ^ Format.binary64.exponentBits + n.log2 := by
        positivity
      rw [UnpackedFloat.ofScientific, dif_neg hpos.ne', if_neg (by norm_num),
        if_neg (by omega), if_pos le_rfl]
      simp only [UnpackedFloat.mul, Nat.shiftLeft_eq, hbits, Int.toNat_zero,
        pow_zero, mul_one, add_zero]
      rfl
    have hofNat : Float.ofNat n =
        .ofModel (.pack (UnpackedFloat.ofScientific .binary64 n 0)) :=
      dif_neg fun hfast => hsmall hfast.1
    have hvalue : ((n * 2 ^ 53 : ℕ) : ℚ) * 2 ^ (-53 : ℤ) = n := by
      push_cast
      norm_num
      ring
    have hnormal := isNormal_roundWithAccuracy (Represents.exact (n * 2 ^ 53))
      (by omega) (hvalue.symm ▸ inRange_natCast hpos h)
    rw [hvalue] at hnormal
    rw [hofNat, hscientific]
    exact .of_pack hnormal

/-! ## Numbers and their order -/

theorem compare_self {u : UnpackedFloat} (h : u ≠ .notANumber) :
    u.compare u = some .eq := by
  cases u with
  | notANumber => exact absurd rfl h
  | infinity sign => cases sign <;> rfl
  | zero sign => rfl
  | finite sign m e hpos =>
      have horder : (compare e e).then (compare m m) = .eq := by
        rw [Int.compare_eq_eq.mpr rfl, Nat.compare_eq_eq.mpr rfl]
        rfl
      cases sign
      · exact congrArg (fun order => some (Ordering.swap order)) horder
      · exact congrArg some horder

/-- Only what is not a number is incomparable with itself. -/
theorem le_self_iff {a : Float} :
    a ≤ a ↔ a.toModel.unpack ≠ .notANumber := by
  constructor
  · intro hle hnan
    have htrue : a.toModel.unpack.le a.toModel.unpack = true :=
      of_decide_eq_true hle
    rw [hnan] at htrue
    exact Bool.false_ne_true htrue
  · intro hne
    refine decide_eq_true (p := a.toModel.le a.toModel = true) ?_
    change a.toModel.unpack.le a.toModel.unpack = true
    rw [UnpackedFloat.le, compare_self hne]
    rfl

theorem unpack_packComponents_ne_notANumber
    (sign : Sign) {exponent : BitVec 11} (mantissa : BitVec 52)
    (h : exponent ≠ -1#11) :
    UnpackedFloat.unpack .binary64
      (packComponents .binary64 sign exponent mantissa) ≠ .notANumber := by
  rw [UnpackedFloat.unpack]
  simp only [unpackExponent_packComponents, if_neg h]
  split
  · split
    · simp
    · simp
  · simp

theorem unpack_packedInfinity (sign : Sign) :
    UnpackedFloat.unpack .binary64 (packedInfinity .binary64 sign) =
      .infinity sign := by
  cases sign <;> rfl

/-- Packing a number never gives the pattern of what is not one. -/
theorem unpack_pack_ne_notANumber {u : UnpackedFloat} (h : u ≠ .notANumber) :
    UnpackedFloat.unpack .binary64 (UnpackedFloat.pack .binary64 u) ≠
      .notANumber := by
  cases u with
  | notANumber => exact absurd rfl h
  | infinity sign =>
      rw [UnpackedFloat.pack, unpack_packedInfinity]
      simp
  | zero sign =>
      exact unpack_packComponents_ne_notANumber sign 0 (by decide)
  | finite sign m e hpos =>
      rw [UnpackedFloat.pack]
      dsimp only
      split
      · rw [unpack_packedInfinity]
        simp
      · next hfits =>
          split
          · refine unpack_packComponents_ne_notANumber sign _ ?_
            intro hones
            have hnat := congrArg BitVec.toNat hones
            rw [BitVec.toNat_ofNat] at hnat
            change _ % 2 ^ 11 = 2047 at hnat
            change ¬ 2 ^ 11 ≤ _ at hfits
            omega
          · exact unpack_packComponents_ne_notANumber sign _ (by decide)

/-- The quotient by a positive number is a number. -/
theorem div_ne_notANumber {a : UnpackedFloat} (h : a ≠ .notANumber)
    {m : ℕ} {e : ℤ} (hpos : 0 < m) :
    UnpackedFloat.div .binary64 a (.finite .positive m e hpos) ≠
      .notANumber := by
  cases a with
  | notANumber => exact absurd rfl h
  | infinity sign => simp [UnpackedFloat.div]
  | zero sign => simp [UnpackedFloat.div]
  | finite sign n f hn =>
      rw [UnpackedFloat.div]
      dsimp only
      rw [roundWithAccuracy]
      dsimp only
      split
      · simp
      · simp

/-- Comparing numbers that are at least zero compares exponents first. -/
theorem lt_finite_iff {m n : ℕ} {e f : ℤ} (hm : 0 < m) (hn : 0 < n) :
    (UnpackedFloat.finite .positive m e hm).lt
      (.finite .positive n f hn) = true ↔ e < f ∨ e = f ∧ m < n := by
  rw [UnpackedFloat.lt, UnpackedFloat.compare, beq_iff_eq, Option.some.injEq,
    Ordering.then_eq_lt, Int.compare_eq_lt, Int.compare_eq_eq,
    Nat.compare_eq_lt]

theorem le_finite_iff {m n : ℕ} {e f : ℤ} (hm : 0 < m) (hn : 0 < n) :
    (UnpackedFloat.finite .positive m e hm).le
      (.finite .positive n f hn) = true ↔ e < f ∨ e = f ∧ m ≤ n := by
  rw [UnpackedFloat.le, UnpackedFloat.compare, Option.any_some,
    Ordering.isLE_then_iff_or, Int.compare_eq_lt, Int.compare_eq_eq,
    Nat.isLE_compare]

/-- A number that is at least zero. -/
def IsNonneg : UnpackedFloat → Prop
  | .zero .positive | .finite .positive .. => True
  | _ => False

theorem IsNormal.isNonneg {u : UnpackedFloat} {x : ℚ} (h : IsNormal u x) :
    IsNonneg u := by
  obtain ⟨m, e, hpos, -⟩ := h
  trivial

theorem lt_of_lt_of_isNonneg_le {a b c : UnpackedFloat} (hb : IsNonneg b)
    (hc : IsNonneg c) (hab : a.lt b = true) (hbc : b.le c = true) :
    a.lt c = true := by
  cases b with
  | notANumber => exact hb.elim
  | infinity sign => exact hb.elim
  | zero sign =>
      cases sign with
      | negative => exact hb.elim
      | positive =>
          cases c with
          | notANumber => exact hc.elim
          | infinity sign => exact hc.elim
          | zero sign =>
              cases sign with
              | negative => exact hc.elim
              | positive => exact hab
          | finite sign n f hn =>
              cases sign with
              | negative => exact hc.elim
              | positive =>
                  cases a with
                  | notANumber => exact hab
                  | infinity sign =>
                      cases sign
                      · rfl
                      · exact hab
                  | zero sign => rfl
                  | finite sign m e hm =>
                      cases sign
                      · rfl
                      · exact absurd hab Bool.false_ne_true
  | finite sign k g hk =>
      cases sign with
      | negative => exact hb.elim
      | positive =>
          cases c with
          | notANumber => exact hc.elim
          | infinity sign => exact hc.elim
          | zero sign => exact absurd hbc Bool.false_ne_true
          | finite sign n f hn =>
              cases sign with
              | negative => exact hc.elim
              | positive =>
                  cases a with
                  | notANumber => exact hab
                  | infinity sign => cases sign <;> exact hab
                  | zero sign => rfl
                  | finite sign m e hm =>
                      cases sign
                      · rfl
                      · rw [lt_finite_iff] at hab ⊢
                        rw [le_finite_iff] at hbc
                        omega

/-- A machine number that is a positive number in binary. -/
theorem finite_cases {a : Float} {sign : Sign} {m : ℕ} {e : ℤ} {hpos : 0 < m}
    (h : a.toModel.unpack = .finite sign m e hpos) :
    m < 2 ^ 53 ∧ -1074 ≤ e ∧ (2 ^ 52 ≤ m ∨ e = -1074) := by
  rw [Float.Model.unpack, UnpackedFloat.unpack] at h
  have hbias : (Format.binary64.exponentBias : ℤ) = 1023 := rfl
  have hwidth : (Format.binary64.mantissaBitsWithoutImplicit : ℤ) = 52 := rfl
  dsimp only at h
  split at h
  · split at h
    · cases h
    · cases h
  · split at h
    · next hzero =>
        split at h
        · cases h
        · cases h
          have hlt := (@unpackMantissa .binary64
            a.toModel.toBits.toBitVec).isLt
          have hexponent : ((BitVec.ofNat Format.binary64.exponentBits 0).toNat : ℤ) = 0 :=
            rfl
          rw [hzero, hbias, hwidth, hexponent]
          refine ⟨hlt.trans (by decide), by omega, .inr (by omega)⟩
    · next hzero =>
        cases h
        have hlt := (@unpackMantissa .binary64
          a.toModel.toBits.toBitVec).isLt
        have happend : (1#1 ++ @unpackMantissa .binary64
            a.toModel.toBits.toBitVec).toNat = 2 ^ 52 +
              (@unpackMantissa .binary64
                a.toModel.toBits.toBitVec).toNat :=
          toNat_one_append _
        have hpositive : 0 < (@unpackExponent .binary64
            a.toModel.toBits.toBitVec).toNat := by
          rw [Nat.pos_iff_ne_zero]
          exact fun heq => hzero (BitVec.eq_of_toNat_eq heq)
        rw [hbias, hwidth, happend]
        change (@unpackMantissa .binary64
          a.toModel.toBits.toBitVec).toNat < 2 ^ 52 at hlt
        omega

namespace IsNormal

variable {a b : UnpackedFloat} {x y : ℚ}

theorem of_le (ha : IsNormal a x) (hb : IsNormal b y) (h : a.le b = true) :
    x ≤ y := by
  obtain ⟨m, e, hmpos, hlow, hhigh, -⟩ := ha
  obtain ⟨n, f, hnpos, hlow', hhigh', -⟩ := hb
  rw [le_finite_iff] at h
  rcases h with hlt | ⟨rfl, hle⟩
  · have hpow : (2 : ℚ) ^ (53 + e) ≤ 2 ^ (52 + f) :=
      zpow_le_zpow_right₀ one_le_two (by omega)
    have hm : (m : ℚ) ≤ 2 ^ 53 := mod_cast hhigh.le
    have hn : (2 : ℚ) ^ 52 ≤ n := mod_cast hlow'
    calc
      (m : ℚ) * 2 ^ e ≤ 2 ^ 53 * 2 ^ e :=
        mul_le_mul_of_nonneg_right hm (two_zpow_pos e).le
      _ = 2 ^ (53 + e) := (zpow_add_two 53 e).symm
      _ ≤ 2 ^ (52 + f) := hpow
      _ = 2 ^ 52 * 2 ^ f := zpow_add_two 52 f
      _ ≤ n * 2 ^ f := mul_le_mul_of_nonneg_right hn (two_zpow_pos f).le
  · exact mul_le_mul_of_nonneg_right (Nat.cast_le.mpr hle)
      (two_zpow_pos e).le

/-- What lies between two normal numbers is one as well. -/
theorem exists_between (ha : IsNormal a x) (hb : IsNormal b y) {c : Float}
    (hlow : a.le c.toModel.unpack = true)
    (hhigh : c.toModel.unpack.le b = true) :
    ∃ z, Holds c z ∧ x ≤ z ∧ z ≤ y := by
  suffices hnormal : ∃ z, Holds c z by
    obtain ⟨z, hz⟩ := hnormal
    exact ⟨z, hz, of_le ha hz hlow, of_le hz hb hhigh⟩
  obtain ⟨m, e, hmpos, hleast, -, hmin, -⟩ := ha
  obtain ⟨n, f, hnpos, -, -, -, hmax⟩ := hb
  cases hunpack : c.toModel.unpack with
  | notANumber =>
      rw [hunpack] at hlow
      exact absurd hlow Bool.false_ne_true
  | infinity sign =>
      rw [hunpack] at hlow hhigh
      cases sign with
      | negative => exact absurd hlow Bool.false_ne_true
      | positive => exact absurd hhigh Bool.false_ne_true
  | zero sign =>
      rw [hunpack] at hlow
      exact absurd hlow Bool.false_ne_true
  | finite sign k g hk =>
      rw [hunpack] at hlow hhigh
      cases sign with
      | negative => exact absurd hlow Bool.false_ne_true
      | positive =>
          obtain ⟨hlt, -, hdigits⟩ := finite_cases hunpack
          rw [le_finite_iff] at hlow hhigh
          refine ⟨k * 2 ^ g, ?_⟩
          rw [Holds, hunpack]
          exact .intro _ _ _ (by omega) hlt (by omega) (by omega)

end IsNormal

theorem rounded_bounds {x : ℚ} {j k : ℤ} (hlow : 2 ^ j ≤ x)
    (hhigh : x ≤ 2 ^ k) : 2 ^ j ≤ rounded x ∧ rounded x ≤ 2 ^ k := by
  have hleast := rounded_mono (two_zpow_pos j) hlow
  have hmost := rounded_mono ((two_zpow_pos j).trans_le hlow) hhigh
  rw [rounded_two_zpow] at hleast hmost
  exact ⟨hleast, hmost⟩

/-! ## Magnitudes -/

/-- A machine number between two powers of two. -/
def Within (a : Float) (j k : ℤ) : Prop :=
  ∃ x, Holds a x ∧ 2 ^ j ≤ x ∧ x ≤ 2 ^ k

namespace Within

variable {a b : Float} {i j k l : ℤ}

theorem mul (ha : Within a i j) (hb : Within b k l)
    (hlow : -1000 ≤ i + k) (hhigh : j + l ≤ 1000) :
    Within (a * b) (i + k) (j + l) := by
  obtain ⟨x, hx, hxlow, hxhigh⟩ := ha
  obtain ⟨y, hy, hylow, hyhigh⟩ := hb
  have hleast : (2 : ℚ) ^ (i + k) ≤ x * y := by
    rw [zpow_add_two]
    exact mul_le_mul hxlow hylow (two_zpow_pos k).le
      ((two_zpow_pos i).le.trans hxlow)
  have hmost : x * y ≤ 2 ^ (j + l) := by
    rw [zpow_add_two]
    exact mul_le_mul hxhigh hyhigh ((two_zpow_pos k).le.trans hylow)
      (two_zpow_pos j).le
  exact ⟨_, hx.mul hy (inRange_of_le hlow hhigh hleast hmost),
    rounded_bounds hleast hmost⟩

theorem div (ha : Within a i j) (hb : Within b k l)
    (hlow : -1000 ≤ i - l) (hhigh : j - k ≤ 1000) :
    Within (a / b) (i - l) (j - k) := by
  obtain ⟨x, hx, hxlow, hxhigh⟩ := ha
  obtain ⟨y, hy, hylow, hyhigh⟩ := hb
  have hpos : 0 < y :=
    (two_zpow_pos k).trans_le hylow
  have hleast : (2 : ℚ) ^ (i - l) ≤ x / y := by
    rw [zpow_sub₀ two_ne_zero]
    exact div_le_div₀ ((two_zpow_pos i).le.trans hxlow) hxlow hpos hyhigh
  have hmost : x / y ≤ 2 ^ (j - k) := by
    rw [zpow_sub₀ two_ne_zero]
    exact div_le_div₀ (two_zpow_pos j).le hxhigh (two_zpow_pos k) hylow
  exact ⟨_, hx.div hy (inRange_of_le hlow hhigh hleast hmost),
    rounded_bounds hleast hmost⟩

theorem add (ha : Within a i k) (hb : Within b j k)
    (hlow : -1000 ≤ i) (hhigh : k + 1 ≤ 1000) :
    Within (a + b) i (k + 1) := by
  obtain ⟨x, hx, hxlow, hxhigh⟩ := ha
  obtain ⟨y, hy, hylow, hyhigh⟩ := hb
  have hleast : (2 : ℚ) ^ i ≤ x + y :=
    hxlow.trans (le_add_of_nonneg_right ((two_zpow_pos j).le.trans hylow))
  have hmost : x + y ≤ 2 ^ (k + 1) := by
    rw [zpow_add_two, zpow_one, mul_two]
    exact add_le_add hxhigh hyhigh
  exact ⟨_, hx.add hy (inRange_of_le hlow hhigh hleast hmost),
    rounded_bounds hleast hmost⟩

theorem mono (h : Within a j k) (hlow : i ≤ j) (hhigh : k ≤ l) :
    Within a i l := by
  obtain ⟨x, hx, hxlow, hxhigh⟩ := h
  exact ⟨x, hx, (zpow_le_zpow_right₀ one_le_two hlow).trans hxlow,
    hxhigh.trans (zpow_le_zpow_right₀ one_le_two hhigh)⟩

theorem ofNat {n : ℕ} (hpos : 0 < n) (h : n < 2 ^ 64) :
    Within (Float.ofNat n) 0 64 := by
  obtain ⟨hlow, hhigh⟩ := rounded_natCast_bounds hpos h
  exact ⟨_, holds_ofNat hpos h, by rwa [zpow_zero], mod_cast hhigh⟩

theorem of_unpack {m : ℕ} {e : ℤ} {hm : 0 < m}
    (h : a.toModel.unpack = .finite .positive m e hm) (hlow : 2 ^ 52 ≤ m)
    (hhigh : m < 2 ^ 53) (hmin : -1074 ≤ e) (hmax : e ≤ 970) :
    Within a (52 + e) (53 + e) := by
  refine ⟨m * 2 ^ e, ?_, ?_, ?_⟩
  · rw [Holds, h]
    exact .intro _ _ _ hlow hhigh hmin hmax
  · rw [zpow_add_two]
    exact mul_le_mul_of_nonneg_right (mod_cast hlow) (two_zpow_pos e).le
  · rw [zpow_add_two]
    exact mul_le_mul_of_nonneg_right (mod_cast hhigh.le) (two_zpow_pos e).le

theorem between (ha : Within a i j) (hb : Within b k l) {c : Float}
    (hlow : a ≤ c) (hhigh : c ≤ b) : Within c i l := by
  obtain ⟨x, hx, hxlow, -⟩ := ha
  obtain ⟨y, hy, -, hyhigh⟩ := hb
  obtain ⟨z, hz, hleast, hmost⟩ := IsNormal.exists_between hx hy
    (of_decide_eq_true hlow) (of_decide_eq_true hhigh)
  exact ⟨z, hz, hxlow.trans hleast, hmost.trans hyhigh⟩

end Within

end Rounding

end Darcbench
