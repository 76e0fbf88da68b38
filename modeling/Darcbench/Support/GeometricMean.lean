import Mathlib.Analysis.SpecialFunctions.Log.Basic
import Mathlib.Data.List.Forall2

/-!
# Weighted geometric means

The weighted geometric mean of positive real numbers, computed in log space:
it is positive, monotone in every value, homogeneous, and lies between the
smallest and the largest value, strictly so unless all values are equal.
-/

namespace Darcbench

/-- A positive real number with a positive weight. -/
structure Weighted where
  value : ℝ
  weight : ℝ
  value_pos : 0 < value
  weight_pos : 0 < weight

namespace Weighted

/-- Sum of the logarithms of the values, by weight. -/
noncomputable def logSum (items : List Weighted) : ℝ :=
  (items.map fun item => item.weight * Real.log item.value).sum

def totalWeight (items : List Weighted) : ℝ :=
  (items.map (·.weight)).sum

/-- The weighted geometric mean. -/
noncomputable def mean (items : List Weighted) : ℝ :=
  Real.exp (logSum items / totalWeight items)

theorem mean_pos (items : List Weighted) : 0 < mean items :=
  Real.exp_pos _

theorem totalWeight_nonneg (items : List Weighted) : 0 ≤ totalWeight items := by
  apply List.sum_nonneg
  intro w hw
  obtain ⟨item, _, rfl⟩ := List.mem_map.mp hw
  exact item.weight_pos.le

theorem totalWeight_pos {items : List Weighted} (h : items ≠ []) :
    0 < totalWeight items := by
  cases items with
  | nil => exact absurd rfl h
  | cons item rest =>
      have hrest := totalWeight_nonneg rest
      have hcons : totalWeight (item :: rest) =
          item.weight + totalWeight rest := by
        simp [totalWeight]
      rw [hcons]
      linarith [item.weight_pos]

/-! ## Monotonicity -/

/-- The same weights, and values that are nowhere smaller. -/
def Dominates (bs as : List Weighted) : Prop :=
  List.Forall₂ (fun a b => a.value ≤ b.value ∧ a.weight = b.weight) as bs

theorem totalWeight_eq_of_dominates
    {as bs : List Weighted} (h : Dominates bs as) :
    totalWeight as = totalWeight bs := by
  induction h with
  | nil => rfl
  | cons hab _ ih =>
      rw [totalWeight, totalWeight] at ih ⊢
      rw [List.map_cons, List.map_cons, List.sum_cons, List.sum_cons, ih,
        hab.2]

theorem logSum_le_of_dominates
    {as bs : List Weighted} (h : Dominates bs as) :
    logSum as ≤ logSum bs := by
  induction h with
  | nil => exact le_rfl
  | @cons a b as bs hab _ ih =>
      have hterm : a.weight * Real.log a.value ≤
          b.weight * Real.log b.value := by
        rw [hab.2]
        exact mul_le_mul_of_nonneg_left
          (Real.log_le_log a.value_pos hab.1) b.weight_pos.le
      rw [logSum, logSum] at ih ⊢
      rw [List.map_cons, List.map_cons, List.sum_cons, List.sum_cons]
      exact add_le_add hterm ih

theorem logSum_lt_of_dominates
    {as bs : List Weighted} (h : Dominates bs as)
    (hlt : ∃ pair ∈ as.zip bs, pair.1.value < pair.2.value) :
    logSum as < logSum bs := by
  induction h with
  | nil => simp at hlt
  | @cons a b as bs hab htail ih =>
      have hle : a.weight * Real.log a.value ≤
          b.weight * Real.log b.value := by
        rw [hab.2]
        exact mul_le_mul_of_nonneg_left
          (Real.log_le_log a.value_pos hab.1) b.weight_pos.le
      have hsum : ∀ c cs, logSum (c :: cs) =
          c.weight * Real.log c.value + logSum cs := by
        intro c cs
        simp [logSum]
      rw [hsum, hsum]
      obtain ⟨pair, hmem, hpair⟩ := hlt
      rcases List.mem_cons.mp hmem with rfl | hmem
      · have hterm : a.weight * Real.log a.value <
            b.weight * Real.log b.value := by
          rw [hab.2]
          exact mul_lt_mul_of_pos_left
            (Real.log_lt_log a.value_pos hpair) b.weight_pos
        exact add_lt_add_of_lt_of_le hterm (logSum_le_of_dominates htail)
      · exact add_lt_add_of_le_of_lt hle (ih ⟨pair, hmem, hpair⟩)

/-- Raising values does not lower the mean. -/
theorem mean_le_mean {as bs : List Weighted} (h : Dominates bs as) :
    mean as ≤ mean bs := by
  rw [mean, mean, Real.exp_le_exp, totalWeight_eq_of_dominates h]
  exact div_le_div_of_nonneg_right (logSum_le_of_dominates h)
    (totalWeight_nonneg bs)

/-- Raising some value raises the mean. -/
theorem mean_lt_mean
    {as bs : List Weighted} (h : Dominates bs as)
    (hlt : ∃ pair ∈ as.zip bs, pair.1.value < pair.2.value) :
    mean as < mean bs := by
  have hne : bs ≠ [] := by
    rintro rfl
    simp at hlt
  rw [mean, mean, Real.exp_lt_exp, totalWeight_eq_of_dominates h]
  exact div_lt_div_of_pos_right (logSum_lt_of_dominates h hlt)
    (totalWeight_pos hne)

/-! ## Homogeneity -/

/-- The same weights, and values multiplied by `k`. -/
def IsMultiple (k : ℝ) (bs as : List Weighted) : Prop :=
  List.Forall₂ (fun a b => b.value = k * a.value ∧ a.weight = b.weight) as bs

theorem totalWeight_eq_of_isMultiple
    {k : ℝ} {as bs : List Weighted} (h : IsMultiple k bs as) :
    totalWeight as = totalWeight bs := by
  induction h with
  | nil => rfl
  | cons hab _ ih =>
      rw [totalWeight, totalWeight] at ih ⊢
      rw [List.map_cons, List.map_cons, List.sum_cons, List.sum_cons, ih,
        hab.2]

theorem logSum_of_isMultiple
    {k : ℝ} (hk : 0 < k) {as bs : List Weighted} (h : IsMultiple k bs as) :
    logSum bs = Real.log k * totalWeight as + logSum as := by
  induction h with
  | nil => simp [logSum, totalWeight]
  | @cons a b as bs hab _ ih =>
      have hlog : Real.log b.value = Real.log k + Real.log a.value := by
        rw [hab.1, Real.log_mul hk.ne' a.value_pos.ne']
      rw [logSum, totalWeight, logSum] at ih ⊢
      rw [List.map_cons, List.map_cons, List.map_cons, List.sum_cons,
        List.sum_cons, List.sum_cons, ih, hlog, hab.2]
      ring

/-- Multiplying every value multiplies the mean. -/
theorem mean_of_isMultiple
    {k : ℝ} (hk : 0 < k) {as bs : List Weighted} (h : IsMultiple k bs as)
    (hne : as ≠ []) :
    mean bs = k * mean as := by
  have htotal := (totalWeight_pos hne).ne'
  rw [mean, mean, ← totalWeight_eq_of_isMultiple h, logSum_of_isMultiple hk h,
    add_div, mul_div_assoc, div_self htotal, mul_one, Real.exp_add,
    Real.exp_log hk]

/-- A value multiplied by `k`, with the same weight. -/
def scale (k : ℝ) (hk : 0 < k) (item : Weighted) : Weighted where
  value := k * item.value
  weight := item.weight
  value_pos := mul_pos hk item.value_pos
  weight_pos := item.weight_pos

theorem mean_map_scale
    {k : ℝ} (hk : 0 < k) {items : List Weighted} (hne : items ≠ []) :
    mean (items.map (scale k hk)) = k * mean items := by
  refine mean_of_isMultiple hk ?_ hne
  rw [IsMultiple, List.forall₂_map_right_iff, List.forall₂_same]
  intro item _
  exact ⟨rfl, rfl⟩

/-! ## Relations that means respect -/

/-- A relation of values that passes to means, to multiples and to minima. -/
structure RespectsMeans (S : ℝ → ℝ → Prop) : Prop where
  mean : ∀ {as bs : List Weighted}, as ≠ [] →
    List.Forall₂ (fun a b => S a.value b.value ∧ a.weight = b.weight) as bs →
      S (mean as) (mean bs)
  mul_right : ∀ {c x y : ℝ}, 0 < c → S x y → S (x * c) (y * c)
  min : ∀ {x y x' y' : ℝ}, S x y → S x' y' → S (min x x') (min y y')

theorem respectsMeans_le : RespectsMeans (· ≤ ·) where
  mean _ h := mean_le_mean h
  mul_right hc h := mul_le_mul_of_nonneg_right h hc.le
  min h h' := min_le_min h h'

theorem respectsMeans_multiple {k : ℝ} (hk : 0 < k) :
    RespectsMeans fun x y => y = k * x where
  mean hne h := mean_of_isMultiple hk h hne
  mul_right _ h := by
    rw [h, mul_assoc]
  min h h' := by
    rw [h, h', mul_min_of_nonneg _ _ hk.le]

/-! ## Bounds -/

/-- The mean of equal values is their common value. -/
theorem mean_eq_of_forall_eq
    {items : List Weighted} {c : ℝ} (hne : items ≠ [])
    (h : ∀ item ∈ items, item.value = c) :
    mean items = c := by
  have hc : 0 < c := by
    obtain ⟨item, hitem⟩ := List.exists_mem_of_ne_nil items hne
    exact h item hitem ▸ item.value_pos
  have hsum : logSum items = Real.log c * totalWeight items := by
    rw [logSum, totalWeight, ← List.sum_map_mul_left]
    congr 1
    refine List.map_congr_left fun item hitem => ?_
    rw [h item hitem, mul_comm]
  rw [mean, hsum, mul_div_assoc, div_self (totalWeight_pos hne).ne', mul_one,
    Real.exp_log hc]

/-- The same weights with a constant value. -/
def const (c : ℝ) (hc : 0 < c) (items : List Weighted) : List Weighted :=
  items.map fun item =>
    { value := c
      weight := item.weight
      value_pos := hc
      weight_pos := item.weight_pos }

theorem mean_const
    {c : ℝ} (hc : 0 < c) {items : List Weighted} (hne : items ≠ []) :
    mean (const c hc items) = c := by
  refine mean_eq_of_forall_eq (by simpa [const] using hne) ?_
  intro item hitem
  obtain ⟨_, _, rfl⟩ := List.mem_map.mp hitem
  rfl

theorem forall₂_const_left
    {R : Weighted → Weighted → Prop} {c : ℝ} (hc : 0 < c)
    {items : List Weighted}
    (h : ∀ item ∈ items,
      R ⟨c, item.weight, hc, item.weight_pos⟩ item) :
    List.Forall₂ R (const c hc items) items := by
  rw [const, List.forall₂_map_left_iff, List.forall₂_same]
  exact h

/-- A lower bound of the values is a lower bound of the mean. -/
theorem le_mean
    {items : List Weighted} {c : ℝ} (hc : 0 < c) (hne : items ≠ [])
    (h : ∀ item ∈ items, c ≤ item.value) :
    c ≤ mean items := by
  rw [← mean_const hc hne]
  exact mean_le_mean (forall₂_const_left hc fun item hitem =>
    ⟨h item hitem, rfl⟩)

/-- An upper bound of the values is an upper bound of the mean. -/
theorem mean_le
    {items : List Weighted} {c : ℝ} (hne : items ≠ [])
    (h : ∀ item ∈ items, item.value ≤ c) :
    mean items ≤ c := by
  have hc : 0 < c := by
    obtain ⟨item, hitem⟩ := List.exists_mem_of_ne_nil items hne
    exact lt_of_lt_of_le item.value_pos (h item hitem)
  rw [← mean_const hc hne]
  refine mean_le_mean (List.Forall₂.flip ?_)
  exact forall₂_const_left hc fun item hitem => ⟨h item hitem, rfl⟩

/-- The mean meets a lower bound of the values only if all values do. -/
theorem forall_eq_of_mean_eq
    {items : List Weighted} {c : ℝ} (hc : 0 < c)
    (h : ∀ item ∈ items, c ≤ item.value) (hmean : mean items = c) :
    ∀ item ∈ items, item.value = c := by
  intro item hitem
  by_contra hne
  have hlt : c < item.value := lt_of_le_of_ne (h item hitem) (Ne.symm hne)
  have hnonempty : items ≠ [] := List.ne_nil_of_mem hitem
  have hstrict : mean (const c hc items) < mean items := by
    refine mean_lt_mean (forall₂_const_left hc fun item hitem =>
      ⟨h item hitem, rfl⟩) ?_
    obtain ⟨i, hi, rfl⟩ := List.getElem_of_mem hitem
    have hi' : i < (const c hc items).length := by simpa [const] using hi
    refine ⟨((const c hc items)[i], items[i]), ?_, ?_⟩
    · rw [List.mem_iff_getElem]
      exact ⟨i, by simpa [const] using hi, by simp⟩
    · simpa [const] using hlt
  rw [mean_const hc hnonempty, hmean] at hstrict
  exact absurd hstrict (lt_irrefl c)

end Weighted

end Darcbench
