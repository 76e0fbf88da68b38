import Darcbench.Scoring.ExactCard

/-!
# Stability in exact arithmetic

The stability index of a run lies between zero and one as soon as it is a
number, and the stability multiplier then lies between one minus the penalty
span and one.
-/

namespace Darcbench

/-! ## The median of numbers -/

/-- The middle of a list of numbers is a number, and shares every property of
the numbers that midpoints have. -/
theorem medianOfSorted_eq_fin
    {P : ℝ → Prop} (hP : ∀ x y, P x → P y → P ((x + y) / 2))
    {values : List Exact} (hvalues : ∀ a ∈ values, ∃ x, P x ∧ a = Exact.fin x)
    {middle : Exact} (h : F64.medianOfSorted values = some middle) :
    ∃ x, P x ∧ middle = .fin x := by
  have hget : ∀ {i : ℕ} {a : Exact}, values[i]? = some a →
      ∃ x, P x ∧ a = .fin x :=
    fun ha => hvalues _ (List.mem_of_getElem? ha)
  rw [F64.medianOfSorted] at h
  split at h
  · exact hget h
  · obtain ⟨low, hlow, h⟩ := Option.bind_eq_some_iff.mp h
    obtain ⟨high, hhigh, h⟩ := Option.bind_eq_some_iff.mp h
    obtain ⟨x, hx, rfl⟩ := hget hlow
    obtain ⟨y, hy, rfl⟩ := hget hhigh
    have htwo : (2.0 : Exact) = .fin 2 := by
      rw [Exact.ofScientific_eq]
      norm_num
    rw [Exact.fin_add_fin, htwo, Exact.fin_div_fin _ two_ne_zero] at h
    exact ⟨_, hP x y hx hy, (Option.some.inj h).symm⟩

theorem median_eq_fin
    {values : List Exact} (hvalues : ∀ a ∈ values, ∃ x, a = Exact.fin x)
    {middle : Exact} (h : median values = some middle) :
    ∃ x, middle = .fin x := by
  rw [median] at h
  split at h
  · exact absurd h (by simp)
  · have hsorted : ∀ a ∈ F64.sortPartial values,
        ∃ x, True ∧ a = Exact.fin x := by
      intro a ha
      obtain ⟨x, hx⟩ := hvalues a (List.mem_mergeSort.mp ha)
      exact ⟨x, trivial, hx⟩
    obtain ⟨x, _, hx⟩ :=
      medianOfSorted_eq_fin (fun _ _ _ _ => trivial) hsorted h
    exact ⟨x, hx⟩

/-- The median of positive numbers is a positive number. -/
theorem Sustained.median_eq_fin
    {values : List Exact}
    (hvalues : ∀ a ∈ values, ∃ x, 0 < x ∧ a = Exact.fin x)
    {middle : Exact} (h : Sustained.median values = some middle) :
    ∃ x, 0 < x ∧ middle = .fin x := by
  rw [Sustained.median] at h
  split at h
  · exact absurd h (by simp)
  · refine medianOfSorted_eq_fin (fun x y hx hy => by positivity) ?_ h
    intro a ha
    exact hvalues a (List.mem_mergeSort.mp ha)

/-! ## The index and the multiplier -/

/-- The quotient from which the stability index of a run is computed has a
value: the variations are numbers, or at least their median and its quotient
with the ceiling are defined. -/
def ScoringModel.HasStability (model : ScoringModel Exact)
    (modules : List (ModuleResult Exact)) : Prop :=
  ∀ cv, median (model.referencedCvs modules) = some cv →
    cv / model.cvCeiling ≠ .nan

theorem ScoringModel.hasStability_of_fin
    {model : ScoringModel Exact} {modules : List (ModuleResult Exact)}
    {ceiling : ℝ} (hceiling : model.cvCeiling = .fin ceiling)
    (hne : ceiling ≠ 0)
    (hcvs : ∀ cv ∈ model.referencedCvs modules, ∃ x, cv = Exact.fin x) :
    model.HasStability modules := by
  intro cv hcv hnan
  obtain ⟨x, rfl⟩ := median_eq_fin hcvs hcv
  rw [hceiling, Exact.fin_div_fin _ hne] at hnan
  exact absurd hnan (by simp)

theorem exists_clamp_eq
    {q : Exact} (hq : q ≠ .nan) :
    ∃ i : ℝ, 0 ≤ i ∧ i ≤ 1 ∧ F64.clamp (1.0 - q) 0.0 1.0 = .fin i := by
  rw [Exact.zero_eq, Exact.one_eq]
  cases q with
  | fin x =>
      rw [Exact.fin_sub_fin, F64.clamp]
      by_cases hlow : 1 - x < 0
      · exact ⟨0, le_rfl, zero_le_one, if_pos hlow⟩
      · rw [if_neg fun h => hlow ((Exact.fin_lt_fin _ _).mp h)]
        by_cases hhigh : 1 < 1 - x
        · exact ⟨1, zero_le_one, le_rfl, if_pos hhigh⟩
        · exact ⟨1 - x, not_lt.mp hlow, not_lt.mp hhigh, if_neg hhigh⟩
  | inf => exact ⟨0, le_rfl, zero_le_one, if_pos trivial⟩
  | negInf =>
      have hlow : ¬ (Exact.fin 1 - Exact.negInf < Exact.fin 0) := fun h => h
      have hhigh : Exact.fin 1 < Exact.fin 1 - Exact.negInf := trivial
      refine ⟨1, zero_le_one, le_rfl, ?_⟩
      rw [F64.clamp, if_neg hlow, if_pos hhigh]
  | nan => exact absurd rfl hq

/-- The stability index of a run is a number between zero and one. -/
theorem exists_stabilityIndex_eq
    {model : ScoringModel Exact} {modules : List (ModuleResult Exact)}
    (h : model.HasStability modules) :
    ∃ i : ℝ, 0 ≤ i ∧ i ≤ 1 ∧
      stabilityIndexOf model.cvCeiling (median (model.referencedCvs modules)) =
        .fin i := by
  cases hmedian : median (model.referencedCvs modules) with
  | some cv => exact exists_clamp_eq (h cv hmedian)
  | none =>
      refine ⟨1 / 2, by norm_num, by norm_num, ?_⟩
      rw [stabilityIndexOf, Exact.ofScientific_eq]
      norm_num

theorem ScoringModel.stabilityIndex_scoreRun
    (model : ScoringModel Exact) (profile : Profile)
    (modules : List (ModuleResult Exact)) :
    (model.scoreRun profile modules).stabilityIndex =
      stabilityIndexOf model.cvCeiling
        (median (model.referencedCvs modules)) := by
  rw [← medianCv_scoreRun model profile modules]
  rfl

theorem ScoringModel.stabilityMultiplier_scoreRun
    (model : ScoringModel Exact) (profile : Profile)
    (modules : List (ModuleResult Exact)) :
    (model.scoreRun profile modules).stabilityMultiplier =
      (1.0 - model.stabilityPenaltySpan) + model.stabilityPenaltySpan *
        (model.scoreRun profile modules).stabilityIndex :=
  rfl

/-- The multiplier takes at most the penalty span from a total. -/
theorem exists_stabilityMultiplier_eq
    {model : ScoringModel Exact} (profile : Profile)
    {modules : List (ModuleResult Exact)} {span : ℝ}
    (h : model.HasStability modules)
    (hspan : model.stabilityPenaltySpan = .fin span) (hnonneg : 0 ≤ span) :
    ∃ m : ℝ, 1 - span ≤ m ∧ m ≤ 1 ∧
      (model.scoreRun profile modules).stabilityMultiplier = .fin m := by
  obtain ⟨i, hlow, hhigh, hi⟩ := exists_stabilityIndex_eq h
  have hterm : span * i ≤ span := mul_le_of_le_one_right hnonneg hhigh
  have hterm' : 0 ≤ span * i := mul_nonneg hnonneg hlow
  refine ⟨1 - span + span * i, by linarith, by linarith, ?_⟩
  rw [model.stabilityMultiplier_scoreRun, model.stabilityIndex_scoreRun, hi,
    hspan, Exact.one_eq, Exact.fin_sub_fin, Exact.fin_mul_fin,
    Exact.fin_add_fin]

/-- Without a defined quotient the multiplier is no number. -/
theorem stabilityMultiplier_eq_nan
    {model : ScoringModel Exact} (profile : Profile)
    {modules : List (ModuleResult Exact)} {span : ℝ}
    (h : ¬ model.HasStability modules)
    (hspan : model.stabilityPenaltySpan = .fin span) :
    (model.scoreRun profile modules).stabilityMultiplier = .nan := by
  have hindex : (model.scoreRun profile modules).stabilityIndex = .nan := by
    rw [ScoringModel.HasStability] at h
    push Not at h
    obtain ⟨cv, hcv, hnan⟩ := h
    rw [model.stabilityIndex_scoreRun, hcv, stabilityIndexOf, hnan]
    have hsub : (1.0 : Exact) - .nan = .nan := rfl
    rw [hsub, F64.clamp]
    exact (if_neg fun h => h).trans (if_neg fun h => h)
  rw [model.stabilityMultiplier_scoreRun, hindex, hspan, Exact.one_eq]
  rfl

/-- The multiplier is not negative if the span is at most one. -/
theorem stabilityMultiplier_nonneg
    {model : ScoringModel Exact} (profile : Profile)
    (modules : List (ModuleResult Exact)) {span : ℝ}
    (hspan : model.stabilityPenaltySpan = .fin span) (hle : span ≤ 1)
    {m : ℝ}
    (hm : (model.scoreRun profile modules).stabilityMultiplier = .fin m) :
    0 ≤ m := by
  by_cases hstability : model.HasStability modules
  · obtain ⟨i, hlow, hhigh, hi⟩ := exists_stabilityIndex_eq hstability
    rw [model.stabilityMultiplier_scoreRun, model.stabilityIndex_scoreRun, hi,
      hspan, Exact.one_eq, Exact.fin_sub_fin, Exact.fin_mul_fin,
      Exact.fin_add_fin, Exact.fin.injEq] at hm
    rw [← hm]
    have hproduct : 0 ≤ (1 - span) * (1 - i) :=
      mul_nonneg (by linarith) (by linarith)
    linarith
  · rw [stabilityMultiplier_eq_nan profile hstability hspan] at hm
    exact absurd hm (by simp)

end Darcbench
