import Darcbench.Protocol.Comparison
import Darcbench.Protocol.Summarize
import Darcbench.Support.Rounding

/-!
# Laws of rounded arithmetic

What some of the code relies on when it computes with rounded numbers.  The laws
hold of machine arithmetic and of exact arithmetic.
-/

namespace Darcbench

/-- Rounding to the nearest integer, with ties away from zero, and the
conversion `as u64`, which saturates. -/
class F64.Round (F : Type) where
  round : F → F
  toU64 : F → ℕ

instance : F64.Round Float where
  round := Float.round
  toU64 a := a.toUInt64.toNat

namespace Exact

noncomputable section

attribute [local instance] atLeastTwo_two in
def roundAway (x : ℝ) : ℤ :=
  if 0 ≤ x then ⌊x + 1 / 2⌋ else -⌊-x + 1 / 2⌋

def round : Exact → Exact
  | fin x => fin (roundAway x)
  | a => a

instance : F64.Round Exact where
  round := round
  toU64 := toUsize

end

end Exact

/-! ## Growth -/

/-- Which operations give a number, how numbers compare, and that doubling a
count is not lost in rounding. -/
class F64.Grows (F : Type) [F64 F] [F64.Round F] : Prop where
  isNan_ofNat : ∀ n : ℕ, n < 2 ^ 64 → F64.isNan (F64.ofNat n : F) = false
  isNan_div : ∀ a b : F, F64.isNan a = false → 0.0 < b →
    F64.isFinite b = true → F64.isNan (a / b) = false
  le_of_not_isFinite : ∀ a b : F, F64.isNan a = false → 0.0 < b →
    F64.isFinite b = false → a ≤ b
  le_of_not_lt : ∀ a b : F, F64.isNan a = false → F64.isNan b = false →
    ¬ a < b → b ≤ a
  four_pos : (0.0 : F) < 4.0
  isFinite_four : F64.isFinite (4.0 : F) = true
  two_le_two : (2.0 : F) ≤ 2.0
  two_le_sixteen : (2.0 : F) ≤ 16.0
  sixteen_le_sixteen : (16.0 : F) ≤ 16.0
  double_le : ∀ (n : ℕ) (a : F), n ≤ 2 ^ 24 → 2.0 ≤ a → a ≤ 16.0 →
    2 * n ≤ F64.Round.toU64 (F64.ofNat n * a)

namespace F64

open Float.Model Rounding

theorem isNan_eq_false_iff {a : Float} :
    isNan a = false ↔ a.toModel.unpack ≠ .notANumber := by
  rw [isNan, Bool.not_eq_false', decide_eq_true_iff, le_self_iff]

theorem ofNat_zero_unpack :
    (F64.ofNat 0 : Float).toModel.unpack = .zero .positive := by
  rfl

theorem isNan_ofNat {n : ℕ} (h : n < 2 ^ 64) :
    isNan (F64.ofNat n : Float) = false := by
  rcases Nat.eq_zero_or_pos n with rfl | hpos
  · rw [isNan_eq_false_iff, ofNat_zero_unpack]
    exact nofun
  · have hholds := holds_ofNat hpos h
    rw [isNan, Bool.not_eq_false', decide_eq_true_iff]
    exact hholds.le hholds le_rfl

/-- A positive finite number in binary. -/
theorem exists_finite {b : Float} (hpos : 0.0 < b) (h : isFinite b = true) :
    ∃ m e hm, b.toModel.unpack = .finite .positive m e hm := by
  have hlt : (UnpackedFloat.zero .positive).lt b.toModel.unpack = true :=
    unpack_zero ▸ of_decide_eq_true hpos
  have hfinite : b.toModel.unpack.isFinite = true := h
  cases hb : b.toModel.unpack with
  | notANumber =>
      rw [hb] at hfinite
      exact absurd hfinite Bool.false_ne_true
  | infinity sign =>
      rw [hb] at hfinite
      exact absurd hfinite Bool.false_ne_true
  | zero sign =>
      rw [hb] at hlt
      exact absurd hlt Bool.false_ne_true
  | finite sign m e hm =>
      cases sign with
      | negative =>
          rw [hb] at hlt
          exact absurd hlt Bool.false_ne_true
      | positive => exact ⟨m, e, hm, rfl⟩

theorem isNan_div {a b : Float} (ha : isNan a = false) (hpos : 0.0 < b)
    (hb : isFinite b = true) : isNan (a / b) = false := by
  rw [isNan_eq_false_iff] at ha ⊢
  obtain ⟨m, e, hm, hunpack⟩ := exists_finite hpos hb
  refine unpack_pack_ne_notANumber ?_
  rw [hunpack]
  exact div_ne_notANumber ha hm

theorem le_of_not_isFinite {a b : Float} (ha : isNan a = false)
    (hpos : 0.0 < b) (hb : isFinite b = false) : a ≤ b := by
  rw [isNan_eq_false_iff] at ha
  have hlt : (UnpackedFloat.zero .positive).lt b.toModel.unpack = true :=
    unpack_zero ▸ of_decide_eq_true hpos
  have hinfinite : b.toModel.unpack.isFinite = false := hb
  have hinfinity : b.toModel.unpack = .infinity .positive := by
    cases hunpack : b.toModel.unpack with
    | notANumber =>
        rw [hunpack] at hlt
        exact absurd hlt Bool.false_ne_true
    | infinity sign =>
        cases sign with
        | negative =>
            rw [hunpack] at hlt
            exact absurd hlt Bool.false_ne_true
        | positive => rfl
    | zero sign =>
        rw [hunpack] at hlt
        exact absurd hlt Bool.false_ne_true
    | finite sign m e hm =>
        rw [hunpack] at hinfinite
        exact absurd hinfinite.symm Bool.false_ne_true
  have hle : a.toModel.unpack.le b.toModel.unpack = true := by
    rw [hinfinity]
    cases hunpack : a.toModel.unpack with
    | notANumber => exact absurd hunpack ha
    | infinity sign => cases sign <;> rfl
    | zero sign => rfl
    | finite sign m e hm => cases sign <;> rfl
  exact decide_eq_true hle

/-- Two numbers compare. -/
theorem exists_compare_eq {a b : UnpackedFloat} (ha : a ≠ .notANumber)
    (hb : b ≠ .notANumber) : ∃ order, a.compare b = some order := by
  cases a with
  | notANumber => exact absurd rfl ha
  | infinity sign =>
      cases b with
      | notANumber => exact absurd rfl hb
      | _ => cases sign <;> exact ⟨_, rfl⟩
  | zero sign =>
      cases b with
      | notANumber => exact absurd rfl hb
      | infinity sign => cases sign <;> exact ⟨_, rfl⟩
      | zero sign => exact ⟨_, rfl⟩
      | finite sign => cases sign <;> exact ⟨_, rfl⟩
  | finite sign =>
      cases b with
      | notANumber => exact absurd rfl hb
      | infinity sign' => cases sign <;> cases sign' <;> exact ⟨_, rfl⟩
      | zero sign' => cases sign <;> exact ⟨_, rfl⟩
      | finite sign' => cases sign <;> cases sign' <;> exact ⟨_, rfl⟩

theorem le_of_not_lt_of_numbers {a b : Float} (ha : isNan a = false)
    (hb : isNan b = false) (h : ¬ a < b) : b ≤ a := by
  rw [isNan_eq_false_iff] at ha hb
  obtain ⟨order, horder⟩ := exists_compare_eq ha hb
  have hne : order ≠ .lt := by
    rintro rfl
    have hlt : a.toModel.unpack.lt b.toModel.unpack = true := by
      rw [UnpackedFloat.lt, horder]
      rfl
    exact h (decide_eq_true hlt)
  have hle : b.toModel.unpack.le a.toModel.unpack = true := by
    rw [UnpackedFloat.le, compare_swap, horder]
    cases order with
    | lt => exact absurd rfl hne
    | eq => rfl
    | gt => rfl
  exact decide_eq_true hle

theorem isNan_of_le {a b : Float} (h : a ≤ b) : isNan a = false := by
  rw [isNan_eq_false_iff]
  intro hunpack
  have hle : a.toModel.unpack.le b.toModel.unpack = true :=
    of_decide_eq_true h
  rw [hunpack] at hle
  exact Bool.false_ne_true hle

/-- A positive number in binary is above zero. -/
theorem zero_lt_of_holds {a : Float} {x : ℚ} (h : Holds a x) : 0.0 < a := by
  have hlt : ∀ u : UnpackedFloat, IsNormal u x →
      (UnpackedFloat.zero .positive).lt u = true := by
    rintro u ⟨m, e, hm, -⟩
    rfl
  have hzero := hlt _ h
  rw [← unpack_zero] at hzero
  exact decide_eq_true hzero

theorem zero_lt_of_within {a : Float} {j k : ℤ} (h : Within a j k) :
    0.0 < a := by
  obtain ⟨x, hx, -⟩ := h
  exact zero_lt_of_holds hx

theorem within_zero_add {a : Float} {j k : ℤ} (h : Within a j k) :
    Within (0.0 + a) j k := by
  obtain ⟨x, hx, hbounds⟩ := h
  have hadd : ∀ u : UnpackedFloat, IsNormal u x →
      UnpackedFloat.add .binary64 (.zero .positive) u = u := by
    rintro u ⟨m, e, hm, -⟩
    rfl
  have hsum : (0.0 : Float) + a = .ofModel (.pack a.toModel.unpack) := by
    conv_rhs => rw [← hadd _ hx, ← unpack_zero]
    rfl
  rw [hsum]
  exact ⟨x, Holds.of_pack hx, hbounds⟩

/-- Adding up numbers of one magnitude. -/
theorem within_foldl {values : List Float} {total : Float} {j k l : ℤ}
    (htotal : Within total j l) (h : ∀ v ∈ values, Within v j k)
    (hlow : -1000 ≤ j) (hkl : k ≤ l) (hhigh : l + values.length ≤ 1000) :
    Within (values.foldl (· + ·) total) j (l + values.length) := by
  induction values generalizing total l with
  | nil => simpa using htotal
  | cons v rest ih =>
      rw [List.length_cons, Nat.cast_succ] at hhigh ⊢
      have hv := (h v List.mem_cons_self).mono le_rfl hkl
      have hsum := htotal.add hv hlow (by omega)
      have hrest := ih hsum (fun v hv => h v (List.mem_cons_of_mem _ hv))
        (by omega) (by omega)
      rw [add_right_comm, add_assoc] at hrest
      exact hrest

theorem within_sum {values : List Float} {j k : ℤ} (hne : values ≠ [])
    (h : ∀ v ∈ values, Within v j k) (hlow : -1000 ≤ j)
    (hhigh : k + values.length ≤ 1000) :
    Within (F64.sum values) j (k + values.length) := by
  cases values with
  | nil => exact absurd rfl hne
  | cons v rest =>
      rw [List.length_cons, Nat.cast_succ] at hhigh ⊢
      have hfirst := within_zero_add (h v List.mem_cons_self)
      exact (within_foldl hfirst (fun v hv => h v (List.mem_cons_of_mem _ hv))
        hlow le_rfl (by omega)).mono le_rfl (by omega)

/-- A machine number between two and sixteen. -/
theorem exists_holds {a : Float} (hlow : 2.0 ≤ a) (hhigh : a ≤ 16.0) :
    ∃ x, Holds a x ∧ 2 ≤ x ∧ x ≤ 16 := by
  have htwo : IsNormal (2.0 : Float).toModel.unpack
      (((2 ^ 52 : ℕ) : ℚ) * 2 ^ (-51 : ℤ)) := by
    have hunpack : (2.0 : Float).toModel.unpack =
        .finite .positive (2 ^ 52) (-51) (Nat.two_pow_pos 52) := by
      rfl
    rw [hunpack]
    exact .intro _ _ _ le_rfl (by norm_num) (by norm_num) (by norm_num)
  have hsixteen : IsNormal (16.0 : Float).toModel.unpack
      (((2 ^ 52 : ℕ) : ℚ) * 2 ^ (-48 : ℤ)) := by
    have hunpack : (16.0 : Float).toModel.unpack =
        .finite .positive (2 ^ 52) (-48) (Nat.two_pow_pos 52) := by
      rfl
    rw [hunpack]
    exact .intro _ _ _ le_rfl (by norm_num) (by norm_num) (by norm_num)
  obtain ⟨x, hx, hleast, hmost⟩ := htwo.exists_between hsixteen
    (of_decide_eq_true hlow) (of_decide_eq_true hhigh)
  exact ⟨x, hx, by norm_num at hleast; exact hleast,
    by norm_num at hmost; exact hmost⟩

/-- The share of a count that is exact in binary, where the share is a power of
two. -/
theorem toU64_ofNat_mul_share {n k : ℕ} (hpos : 0 < n) (h : n < 2 ^ 53)
    (hk : k ≤ 64) {share : Float} (hshare : Holds share (2 ^ (-(k : ℤ)))) :
    F64.Round.toU64 ((F64.ofNat n : Float) * share) = n / 2 ^ k := by
  have hcount := holds_ofNat hpos (h.trans (by norm_num))
  rw [rounded_natCast hpos h] at hcount
  have hcast : (1 : ℚ) ≤ n :=
    Nat.one_le_cast.mpr hpos
  have hmost : (n : ℚ) ≤ 2 ^ 53 :=
    mod_cast h.le
  have hone : (2 : ℚ) ^ (-(k : ℤ)) ≤ 1 :=
    zpow_le_one_of_nonpos₀ one_le_two (by omega)
  have hrange : InRange (n * 2 ^ (-(k : ℤ))) := by
    refine @inRange_of_le _ (-(k : ℤ)) 53 (by omega) (by norm_num) ?_ ?_
    · exact le_mul_of_one_le_left (two_zpow_pos _).le hcast
    · calc
        (n : ℚ) * 2 ^ (-(k : ℤ)) ≤ 2 ^ 53 * 1 :=
          mul_le_mul hmost hone (two_zpow_pos _).le (by norm_num)
        _ = 2 ^ (53 : ℤ) := by norm_num
  have hproduct := hcount.mul hshare hrange
  rw [rounded_mul_two_zpow (one_pos.trans_le hcast), rounded_natCast hpos h]
    at hproduct
  have hquotient : (n : ℚ) * 2 ^ (-(k : ℤ)) = (n : ℚ) / (2 ^ k : ℕ) := by
    rw [zpow_neg, zpow_natCast, Nat.cast_pow, Nat.cast_ofNat, div_eq_mul_inv]
  rw [hquotient] at hproduct
  exact hproduct.toUInt64_eq_div (Nat.two_pow_pos k)
    ((Nat.div_le_self _ _).trans_lt (h.trans (by norm_num)))

/-- Doubling is exact, and a larger factor gives at least as much. -/
theorem double_le {n : ℕ} (hn : n ≤ 2 ^ 24) {a : Float} (hlow : 2.0 ≤ a)
    (hhigh : a ≤ 16.0) :
    2 * n ≤ F64.Round.toU64 ((F64.ofNat n : Float) * a) := by
  rcases Nat.eq_zero_or_pos n with rfl | hpos
  · exact Nat.zero_le _
  · obtain ⟨x, hx, htwo, hsixteen⟩ := exists_holds hlow hhigh
    have hcount : (1 : ℚ) ≤ n :=
      Nat.one_le_cast.mpr hpos
    have hmost : (n : ℚ) ≤ 2 ^ 24 :=
      mod_cast hn
    have hholds := holds_ofNat hpos (by omega)
    rw [rounded_natCast hpos (by omega)] at hholds
    have hdouble : ((2 * n : ℕ) : ℚ) ≤ n * x := by
      push_cast
      nlinarith
    have hrange : InRange (n * x) := by
      refine @inRange_of_le _ 0 28 (by norm_num) (by norm_num) ?_ ?_
      · rw [zpow_zero]
        nlinarith
      · calc
          (n : ℚ) * x ≤ 2 ^ 24 * 16 :=
            mul_le_mul hmost hsixteen (by linarith) (by norm_num)
          _ = 2 ^ (28 : ℤ) := by norm_num
    have hproduct := rounded_mono
      (Nat.cast_pos.mpr (Nat.mul_pos two_pos hpos)) hdouble
    rw [rounded_natCast (Nat.mul_pos two_pos hpos) (by omega)] at hproduct
    exact (hholds.mul hx hrange).le_toUInt64 hproduct (by omega)

instance : Grows Float where
  isNan_ofNat _ h := isNan_ofNat h
  isNan_div _ _ := isNan_div
  le_of_not_isFinite _ _ := le_of_not_isFinite
  le_of_not_lt _ _ := le_of_not_lt_of_numbers
  four_pos := by decide +kernel
  isFinite_four := by decide +kernel
  two_le_two := by decide +kernel
  two_le_sixteen := by decide +kernel
  sixteen_le_sixteen := by decide +kernel
  double_le _ _ hn := double_le hn

end F64

namespace Exact

theorem not_isNan_iff {a : Exact} : F64.isNan a = false ↔ a ≠ nan := by
  cases a <;> simp

theorem le_inf {a : Exact} (h : F64.isNan a = false) : a ≤ inf := by
  cases a with
  | nan => exact absurd rfl (not_isNan_iff.mp h)
  | _ => trivial

/-- Twice a count is at most its product with a number from two on. -/
theorem double_le_mul (n : ℕ) (a : Exact) (hn : n ≤ 2 ^ 24)
    (h : fin 2 ≤ a) : 2 * n ≤ toUsize (fin n * a) := by
  cases a with
  | fin x =>
      have htwo : (2 : ℝ) ≤ x := h
      have hfloor : 2 * n ≤ ⌊(n : ℝ) * x⌋₊ := by
        apply Nat.le_floor
        push_cast
        nlinarith [Nat.cast_nonneg (α := ℝ) n]
      rw [fin_mul_fin, toUsize]
      omega
  | inf =>
      rcases Nat.eq_zero_or_pos n with rfl | hpos
      · exact Nat.zero_le _
      · rw [fin_mul_inf (Nat.cast_pos.mpr hpos), toUsize]
        omega
  | negInf => exact absurd h id
  | nan => exact absurd h id

instance : F64.Grows Exact where
  isNan_ofNat n _ := isNan_fin n
  isNan_div a b ha hb hfinite := by
    obtain ⟨y, rfl⟩ := isFinite_eq_true_iff.mp hfinite
    have hy : 0 < y := by
      rw [zero_eq] at hb
      exact hb
    cases a with
    | fin x => rw [fin_div_fin x hy.ne', isNan_fin]
    | inf => exact (congrArg F64.isNan (if_neg hy.le.not_gt)).trans isNan_inf
    | negInf =>
        exact (congrArg F64.isNan (if_neg hy.le.not_gt)).trans isNan_negInf
    | nan => exact absurd rfl (not_isNan_iff.mp ha)
  le_of_not_isFinite a b ha hb hinfinite := by
    cases b with
    | inf => exact le_inf ha
    | fin y => exact absurd hinfinite (by simp)
    | negInf => exact absurd hb (by rw [zero_eq]; exact id)
    | nan => exact absurd hb (by rw [zero_eq]; exact id)
  le_of_not_lt a b ha hb hlt := by
    cases a <;> cases b
    case fin.fin x y => exact (not_lt (a := x) (b := y)).mp hlt
    all_goals first
      | exact absurd rfl (not_isNan_iff.mp ha)
      | exact absurd rfl (not_isNan_iff.mp hb)
      | exact absurd trivial hlt
      | trivial
  four_pos := by
    rw [ofScientific_eq, ofScientific_eq, fin_lt_fin]
    norm_num
  isFinite_four := rfl
  two_le_two := by
    rw [ofScientific_eq, fin_le_fin]
  two_le_sixteen := by
    rw [ofScientific_eq, ofScientific_eq, fin_le_fin]
    norm_num
  sixteen_le_sixteen := by
    rw [ofScientific_eq, fin_le_fin]
  double_le n a hn ha _ := by
    have htwo : (2.0 : Exact) = fin 2 := by
      rw [ofScientific_eq]
      norm_num
    rw [htwo] at ha
    exact double_le_mul n a hn ha

end Exact

/-! ## Shares -/

/-- A larger part of the same whole is a larger share. -/
class F64.MonotoneRatio (F : Type) [F64 F] : Prop where
  ratio_mono : ∀ (c : F) (a b whole : ℕ), a ≤ b → b < 2 ^ 64 → 0 < whole →
    whole < 2 ^ 64 → c < F64.ofNat a / F64.ofNat whole →
      c < F64.ofNat b / F64.ofNat whole

namespace F64

open Float.Model Rounding

theorem zero_le_of_isNormal {u : UnpackedFloat} {x : ℚ} (h : IsNormal u x) :
    (UnpackedFloat.zero .positive).le u = true := by
  obtain ⟨m, e, hm, -⟩ := h
  rfl

/-- The share of a positive part is a normal number. -/
theorem holds_ratio {n whole : ℕ} (hpos : 0 < n) (hn : n < 2 ^ 64)
    (hwhole : 0 < whole) (hsize : whole < 2 ^ 64) :
    Holds (F64.ofNat n / F64.ofNat whole : Float)
      (rounded (rounded n / rounded whole)) := by
  obtain ⟨hlow, hhigh⟩ := rounded_natCast_bounds hpos hn
  obtain ⟨hlow', hhigh'⟩ := rounded_natCast_bounds hwhole hsize
  have hdivisor : 0 < rounded whole :=
    one_pos.trans_le hlow'
  refine (holds_ofNat hpos hn).div (holds_ofNat hwhole hsize) ?_
  refine @inRange_of_le _ (-64) 64 (by norm_num) (by norm_num) ?_ ?_
  · rw [le_div_iff₀ hdivisor]
    calc
      (2 : ℚ) ^ (-64 : ℤ) * rounded whole ≤ 2 ^ (-64 : ℤ) * 2 ^ 64 :=
        mul_le_mul_of_nonneg_left hhigh' (two_zpow_pos _).le
      _ = 1 := by norm_num
      _ ≤ rounded n := hlow
  · rw [div_le_iff₀ hdivisor]
    calc
      rounded n ≤ 2 ^ 64 * 1 := hhigh.trans_eq (mul_one _).symm
      _ ≤ 2 ^ (64 : ℤ) * rounded whole :=
        mul_le_mul_of_nonneg_left hlow' (by norm_num)

theorem ratio_zero_unpack {whole : ℕ} (hwhole : 0 < whole)
    (hsize : whole < 2 ^ 64) :
    (F64.ofNat 0 / F64.ofNat whole : Float).toModel.unpack =
      .zero .positive := by
  have hdiv : ∀ {u : UnpackedFloat} {x : ℚ}, IsNormal u x →
      UnpackedFloat.div .binary64 (.zero .positive) u = .zero .positive := by
    rintro u x ⟨m, e, hm, -⟩
    rfl
  have hholds : IsNormal (F64.ofNat whole : Float).toModel.unpack
      (rounded whole) :=
    holds_ofNat hwhole hsize
  change (Float.Model.pack (UnpackedFloat.div .binary64
    (F64.ofNat 0 : Float).toModel.unpack
      (F64.ofNat whole : Float).toModel.unpack)).unpack = _
  rw [ofNat_zero_unpack, hdiv hholds]
  rfl

instance : MonotoneRatio Float where
  ratio_mono c a b whole hab hb hwhole hsize h := by
    have hlt : c.toModel.unpack.lt
        (F64.ofNat a / F64.ofNat whole : Float).toModel.unpack = true :=
      of_decide_eq_true h
    rcases Nat.eq_zero_or_pos b with rfl | hbpos
    · rw [Nat.le_zero.mp hab] at h
      exact h
    · have hlarger := holds_ratio hbpos hb hwhole hsize
      refine decide_eq_true (p := c.toModel.lt _ = true) ?_
      rcases Nat.eq_zero_or_pos a with rfl | hapos
      · rw [ratio_zero_unpack hwhole hsize] at hlt
        have hzero : IsNonneg (.zero .positive) := trivial
        exact lt_of_lt_of_isNonneg_le hzero (IsNormal.isNonneg hlarger) hlt
          (zero_le_of_isNormal hlarger)
      · have hsmaller := holds_ratio hapos (hab.trans_lt hb) hwhole hsize
        have hpos : (0 : ℚ) < a :=
          Nat.cast_pos.mpr hapos
        have hdivisor : 0 < rounded whole :=
          one_pos.trans_le (rounded_natCast_bounds hwhole hsize).1
        have hquotient : rounded a / rounded whole ≤
            rounded b / rounded whole :=
          div_le_div_of_nonneg_right
            (rounded_mono hpos (Nat.cast_le.mpr hab)) hdivisor.le
        have hsmall : 0 < rounded a / rounded whole :=
          div_pos (one_pos.trans_le
            (rounded_natCast_bounds hapos (hab.trans_lt hb)).1) hdivisor
        exact lt_of_lt_of_isNonneg_le (IsNormal.isNonneg hsmaller)
          (IsNormal.isNonneg hlarger) hlt
          (IsNormal.le hsmaller hlarger (rounded_mono hsmall hquotient))

end F64

instance : F64.MonotoneRatio Exact where
  ratio_mono c a b whole hab _ hwhole _ h := by
    have hne : (whole : ℝ) ≠ 0 := Nat.cast_ne_zero.mpr hwhole.ne'
    have hle : (a : ℝ) / whole ≤ b / whole :=
      div_le_div_of_nonneg_right (Nat.cast_le.mpr hab) (Nat.cast_nonneg _)
    simp only [Exact.ofNat_eq, Exact.fin_div_fin _ hne] at h ⊢
    cases c with
    | fin x => exact lt_of_lt_of_le ((Exact.fin_lt_fin _ _).mp h) hle
    | inf => exact h
    | negInf => exact h
    | nan => exact h

end Darcbench
