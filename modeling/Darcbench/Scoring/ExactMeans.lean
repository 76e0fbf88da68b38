import Darcbench.Protocol.Exact
import Darcbench.Protocol.Stats
import Darcbench.Support.GeometricMean

/-!
# Geometric means in exact arithmetic

Over exact arithmetic the two means of the program return a number exactly for
positive numbers, and this number is the weighted geometric mean of the real
numbers involved.
-/

namespace Darcbench

namespace Exact

/-- The guard of the means lets exactly the positive numbers pass. -/
theorem exists_pos_iff (a : Exact) :
    (F64.isFinite a = true ∧ ¬ a ≤ 0.0) ↔ ∃ x, 0 < x ∧ a = fin x := by
  rw [isFinite_eq_true_iff, zero_eq]
  constructor
  · rintro ⟨⟨x, rfl⟩, hx⟩
    exact ⟨x, not_le.mp hx, rfl⟩
  · rintro ⟨x, hx, rfl⟩
    exact ⟨⟨x, rfl⟩, not_le.mpr hx⟩

instance : F64.ComparesZero Exact where
  not_le_zero a hpos hzero := by
    rw [zero_eq] at hpos hzero
    cases a with
    | fin x =>
        have hx : 0 < x := hpos
        exact absurd hzero (not_le.mpr hx)
    | inf => exact hzero
    | negInf => exact hpos
    | nan => exact hpos

end Exact

namespace Weighted

/-- The pair that a weighted number is in the program. -/
def pair (item : Weighted) : Exact × Exact :=
  (.fin item.value, .fin item.weight)

/-- A value with the weight of an unweighted mean. -/
def unit (item : Weighted) : Weighted where
  value := item.value
  weight := 1
  value_pos := item.value_pos
  weight_pos := one_pos

end Weighted

/-! ## The weighted mean -/

theorem weightedLogSum_map_pair (acc : ℝ) (items : List Weighted) :
    weightedLogSum (.fin acc) (items.map Weighted.pair) =
      some (.fin (acc + Weighted.logSum items)) := by
  induction items generalizing acc with
  | nil => simp [weightedLogSum, Weighted.logSum]
  | cons item rest ih =>
      have hvalue : ¬ (.fin item.value : Exact) ≤ 0.0 := by
        rw [Exact.zero_eq, Exact.fin_le_fin, not_le]
        exact item.value_pos
      have hweight : ¬ (.fin item.weight : Exact) ≤ 0.0 := by
        rw [Exact.zero_eq, Exact.fin_le_fin, not_le]
        exact item.weight_pos
      have hsum : acc + Weighted.logSum (item :: rest) =
          acc + item.weight * Real.log item.value + Weighted.logSum rest := by
        simp [Weighted.logSum, add_assoc]
      rw [List.map_cons, Weighted.pair, weightedLogSum]
      simp only [Exact.isFinite_fin, hvalue, hweight, Bool.not_true,
        decide_false, Bool.or_false, Bool.false_eq_true, if_false]
      rw [Exact.ln_fin item.value_pos, Exact.fin_mul_fin, Exact.fin_add_fin,
        ih, hsum]

theorem sum_map_pair_snd (items : List Weighted) :
    F64.sum ((items.map Weighted.pair).map Prod.snd) =
      .fin (Weighted.totalWeight items) := by
  rw [Weighted.totalWeight, ← Exact.sum_map_fin, List.map_map, List.map_map]
  rfl

theorem weightedGeometricMean_map_pair
    {items : List Weighted} (h : items ≠ []) :
    weightedGeometricMean (items.map Weighted.pair) =
      some (.fin (Weighted.mean items)) := by
  have htotal := Weighted.totalWeight_pos h
  have hle : ¬ (.fin (Weighted.totalWeight items) : Exact) ≤ 0.0 := by
    rw [Exact.zero_eq, Exact.fin_le_fin, not_le]
    exact htotal
  have hempty : (items.map Weighted.pair).isEmpty = false := by
    simpa using h
  rw [weightedGeometricMean, hempty, sum_map_pair_snd]
  simp only [Bool.false_eq_true, if_false, Exact.isFinite_fin, hle,
    decide_false, Bool.not_true, Bool.or_false]
  rw [Exact.zero_eq, weightedLogSum_map_pair, Option.map_some, zero_add,
    Exact.fin_div_fin _ htotal.ne', Exact.exp_fin]
  rfl

/-- Only positive numbers survive the loop. -/
theorem exists_items_of_weightedLogSum
    {acc sum : Exact} {pairs : List (Exact × Exact)}
    (h : weightedLogSum acc pairs = some sum) :
    ∃ items : List Weighted, pairs = items.map Weighted.pair := by
  induction pairs generalizing acc with
  | nil => exact ⟨[], rfl⟩
  | cons pair rest ih =>
      rw [weightedLogSum] at h
      split at h
      · exact absurd h (by simp)
      · next hguard =>
          simp only [Bool.or_eq_true, Bool.not_eq_true', not_or,
            Bool.not_eq_false, decide_eq_true_eq] at hguard
          obtain ⟨⟨⟨hvalue, hvalue'⟩, hweight⟩, hweight'⟩ := hguard
          obtain ⟨x, hx, hvalue⟩ :=
            (Exact.exists_pos_iff _).mp ⟨hvalue, hvalue'⟩
          obtain ⟨w, hw, hweight⟩ :=
            (Exact.exists_pos_iff _).mp ⟨hweight, hweight'⟩
          obtain ⟨items, rfl⟩ := ih h
          refine ⟨⟨x, w, hx, hw⟩ :: items, ?_⟩
          rw [List.map_cons, Weighted.pair, ← hvalue, ← hweight]

/-- The weighted mean is a number only for positive numbers, and then it is
their weighted geometric mean. -/
theorem weightedGeometricMean_eq_some_iff
    {pairs : List (Exact × Exact)} {mean : Exact} :
    weightedGeometricMean pairs = some mean ↔
      ∃ items : List Weighted, items ≠ [] ∧
        pairs = items.map Weighted.pair ∧
        mean = .fin (Weighted.mean items) := by
  constructor
  · intro h
    have hsome := h
    rw [weightedGeometricMean] at h
    split at h
    · exact absurd h (by simp)
    · next hempty =>
        dsimp only at h
        split at h
        · exact absurd h (by simp)
        · obtain ⟨sum, hsum, _⟩ := Option.map_eq_some_iff.mp h
          obtain ⟨items, rfl⟩ := exists_items_of_weightedLogSum hsum
          have hne : items ≠ [] := by
            rintro rfl
            exact hempty rfl
          rw [weightedGeometricMean_map_pair hne] at hsome
          exact ⟨items, hne, rfl, (Option.some.inj hsome).symm⟩
  · rintro ⟨items, hne, rfl, rfl⟩
    exact weightedGeometricMean_map_pair hne

/-! ## The unweighted mean -/

theorem geometricMean_map_fin
    {items : List Weighted} (h : items ≠ []) :
    geometricMean (items.map fun item => (.fin item.value : Exact)) =
      some (.fin (Weighted.mean (items.map Weighted.unit))) := by
  have hguard : ((items.map fun item =>
      (.fin item.value : Exact)).any fun v =>
        !F64.isFinite v || decide (v ≤ 0.0)) = false := by
    rw [List.any_eq_false]
    intro a ha
    obtain ⟨item, _, rfl⟩ := List.mem_map.mp ha
    have hle : ¬ (.fin item.value : Exact) ≤ 0.0 := by
      rw [Exact.zero_eq, Exact.fin_le_fin, not_le]
      exact item.value_pos
    simp [hle]
  have hln : (items.map fun item => (.fin item.value : Exact)).map F64.ln =
      (items.map fun item => Real.log item.value).map Exact.fin := by
    rw [List.map_map, List.map_map]
    exact List.map_congr_left fun item _ => Exact.ln_fin item.value_pos
  have hlog : Weighted.logSum (items.map Weighted.unit) =
      (items.map fun item => Real.log item.value).sum := by
    rw [Weighted.logSum, List.map_map]
    congr 1
    exact List.map_congr_left fun item _ => one_mul _
  have htotal : Weighted.totalWeight (items.map Weighted.unit) =
      (items.length : ℝ) := by
    rw [Weighted.totalWeight, List.map_map]
    have hone : (Weighted.weight ∘ Weighted.unit) = fun _ => (1 : ℝ) := rfl
    rw [hone, List.map_const', List.sum_replicate, nsmul_eq_mul, mul_one]
  have hlength : (items.length : ℝ) ≠ 0 := by
    rw [Nat.cast_ne_zero, ne_eq, List.length_eq_zero_iff]
    exact h
  have hempty : (items.map fun item =>
      (.fin item.value : Exact)).isEmpty = false := by
    simpa using h
  rw [geometricMean, hempty, hguard, hln, Exact.sum_map_fin, List.length_map,
    Exact.ofNat_eq]
  simp only [Bool.or_false, Bool.false_eq_true, if_false]
  rw [Exact.fin_div_fin _ hlength, Exact.exp_fin, Weighted.mean, hlog, htotal]

end Darcbench
