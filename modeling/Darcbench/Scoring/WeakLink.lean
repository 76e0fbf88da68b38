import Darcbench.Scoring.Stability

/-!
# What the weakest category does to a total

The total of a run is bounded by the cap times every category score, and the
uncapped total lies between the scores of the categories, up to the penalty
for instability.
-/

namespace Darcbench

/-- The cap takes the smaller of the total and the multiple of the weakest
score. -/
theorem applyWeakLinkCap_fin
    {scores : List Exact} {total low factor : ℝ}
    (hlow : weakest scores = some (.fin low)) (hfactor : 0 < factor) :
    applyWeakLinkCap (.fin total) scores (.fin factor) =
      .fin (min total (low * factor)) := by
  rw [applyWeakLinkCap, hlow]
  dsimp only
  rw [Exact.zero_eq, if_pos ((Exact.fin_lt_fin _ _).mpr hfactor),
    Exact.fin_mul_fin, Exact.min_fin]

/-- Some category has the largest score. -/
theorem exists_largest {items : List Weighted} (hne : items ≠ []) :
    ∃ high ∈ items, ∀ item ∈ items, item.value ≤ high.value := by
  induction items with
  | nil => exact absurd rfl hne
  | cons item rest ih =>
      by_cases hrest : rest = []
      · subst hrest
        refine ⟨item, List.mem_cons_self, ?_⟩
        intro item' hitem'
        rw [List.mem_singleton.mp hitem']
      · obtain ⟨high, hhigh, hle⟩ := ih hrest
        rcases le_total high.value item.value with h | h
        · refine ⟨item, List.mem_cons_self, ?_⟩
          intro item' hitem'
          rcases List.mem_cons.mp hitem' with rfl | hitem'
          · exact le_rfl
          · exact (hle item' hitem').trans h
        · refine ⟨high, List.mem_cons_of_mem _ hhigh, ?_⟩
          intro item' hitem'
          rcases List.mem_cons.mp hitem' with rfl | hitem'
          · exact h
          · exact hle item' hitem'

/-! ## Balance -/

theorem mean_unit_eq_iff
    {items : List Weighted} {low : ℝ} (hlow : IsWeakest items low) :
    Weighted.mean (items.map Weighted.unit) = low ↔
      ∀ item ∈ items, item.value = low := by
  have hne : items.map Weighted.unit ≠ [] := by
    obtain ⟨item, hitem, _⟩ := hlow.mem
    exact List.ne_nil_of_mem (List.mem_map_of_mem hitem)
  constructor
  · intro hmean item hitem
    have hle : ∀ u ∈ items.map Weighted.unit, low ≤ u.value := by
      intro u hu
      obtain ⟨item, hitem, rfl⟩ := List.mem_map.mp hu
      exact hlow.le item hitem
    exact Weighted.forall_eq_of_mean_eq hlow.pos hle hmean item.unit
      (List.mem_map_of_mem hitem)
  · intro hall
    refine Weighted.mean_eq_of_forall_eq hne ?_
    intro u hu
    obtain ⟨item, hitem, rfl⟩ := List.mem_map.mp hu
    exact hall item hitem

/-- The weakest number is at most the plain mean. -/
theorem IsWeakest.le_mean_unit
    {items : List Weighted} {low : ℝ} (hlow : IsWeakest items low) :
    low ≤ Weighted.mean (items.map Weighted.unit) := by
  have hne : items.map Weighted.unit ≠ [] := by
    obtain ⟨item, hitem, _⟩ := hlow.mem
    exact List.ne_nil_of_mem (List.mem_map_of_mem hitem)
  refine Weighted.le_mean hlow.pos hne ?_
  intro u hu
  obtain ⟨item, hitem, rfl⟩ := List.mem_map.mp hu
  exact hlow.le item hitem

/-- The balance index is positive, at most one, and one exactly when all
category scores are equal. -/
theorem balanceIndex_bounds
    {model : ScoringModel Exact} {profile : Profile}
    {modules : List (ModuleResult Exact)}
    (hne : (model.scoreRun profile modules).categories ≠ []) :
    ∃ b, (model.scoreRun profile modules).balanceIndex = some b ∧
      0.0 < b ∧ b ≤ 1.0 ∧
      (b = 1.0 ↔ ∀ c ∈ (model.scoreRun profile modules).categories,
        ∀ c' ∈ (model.scoreRun profile modules).categories,
          c.score = c'.score) := by
  obtain ⟨items, hitems⟩ := exists_hasScores_scoreRun model profile modules
  have hitemsNe : items ≠ [] := fun h =>
    hne (hitems.categories_eq_nil_iff.mpr h)
  obtain ⟨low, hlow, hweakest⟩ := exists_isWeakest hitemsNe
  have hmean := Weighted.mean_pos (items.map Weighted.unit)
  refine ⟨_, ScoringModel.balanceIndex_eq hitems hitemsNe hweakest, ?_, ?_, ?_⟩
  · rw [Exact.zero_eq, Exact.fin_lt_fin]
    exact div_pos hlow.pos hmean
  · rw [Exact.one_eq, Exact.fin_le_fin]
    exact div_le_one_of_le₀ hlow.le_mean_unit hmean.le
  · rw [Exact.one_eq, Exact.fin.injEq, div_eq_one_iff_eq hmean.ne', eq_comm,
      mean_unit_eq_iff hlow]
    constructor
    · intro hall c hc c' hc'
      obtain ⟨item, hitem, hscore⟩ := hitems.exists_item hc
      obtain ⟨item', hitem', hscore'⟩ := hitems.exists_item hc'
      rw [hscore, hscore', hall item hitem, hall item' hitem']
    · intro hall item hitem
      obtain ⟨weak, hweak, hvalue⟩ := hlow.mem
      obtain ⟨c, hc, hscore⟩ := hitems.exists_category hitem
      obtain ⟨c', hc', hscore'⟩ := hitems.exists_category hweak
      have hequal := hall c hc c' hc'
      rw [hscore, hscore', Exact.fin.injEq] at hequal
      exact hequal.trans hvalue

/-! ## The bounds of the total -/

/-- A total is bounded by every category score, and the uncapped total lies
between the smallest score, less the penalty, and the largest score. -/
theorem total_bounds
    {model : ScoringModel Exact} {profile : Profile}
    {modules : List (ModuleResult Exact)} {factor span : ℝ} {t : Exact}
    (hfactor : model.weakLinkCapFactor = .fin factor) (hfactorPos : 0 < factor)
    (hspan : model.stabilityPenaltySpan = .fin span)
    (hspanNonneg : 0 ≤ span) (hspanLe : span ≤ 1)
    (hstability : model.HasStability modules)
    (ht : (model.scoreRun profile modules).total = some t) :
    (∀ c ∈ (model.scoreRun profile modules).categories,
      t ≤ .fin factor * c.score) ∧
    (∃ u, (model.scoreRun profile modules).uncappedTotal = some u ∧ t ≤ u ∧
      ∃ low ∈ (model.scoreRun profile modules).categories,
      ∃ high ∈ (model.scoreRun profile modules).categories,
        (∀ c ∈ (model.scoreRun profile modules).categories,
          low.score ≤ c.score ∧ c.score ≤ high.score) ∧
        (1.0 - .fin span) * low.score ≤ u ∧ u ≤ 1.0 * high.score ∧
        (t = u ∨ t = .fin factor * low.score)) ∧
    ∃ b, (model.scoreRun profile modules).balanceIndex = some b ∧
      0.0 < b ∧ b ≤ 1.0 ∧
      (b = 1.0 ↔ ∀ c ∈ (model.scoreRun profile modules).categories,
        ∀ c' ∈ (model.scoreRun profile modules).categories,
          c.score = c'.score) := by
  obtain ⟨items, hitems⟩ := exists_hasScores_scoreRun model profile modules
  have hne : items ≠ [] := by
    rintro rfl
    rw [model.total_scoreRun, ScoringModel.uncappedTotal_eq_none hitems] at ht
    exact absurd ht (by simp)
  have hcategories : (model.scoreRun profile modules).categories ≠ [] :=
    fun h => hne (hitems.categories_eq_nil_iff.mp h)
  obtain ⟨low, hlow, hweakest⟩ := exists_isWeakest hne
  obtain ⟨high, hhigh, hhighLe⟩ := exists_largest hne
  obtain ⟨m, hmLow, hmHigh, hm⟩ :=
    exists_stabilityMultiplier_eq profile hstability hspan hspanNonneg
  have huncapped := ScoringModel.uncappedTotal_eq hitems hne
  rw [hm, Exact.fin_mul_fin] at huncapped
  rw [← hitems.map_score] at hweakest
  have hcap : t = .fin (min (Weighted.mean items * m) (low * factor)) := by
    rw [model.total_scoreRun, huncapped, hfactor, Option.map_some,
      applyWeakLinkCap_fin hweakest hfactorPos] at ht
    exact (Option.some.inj ht).symm
  have hmeanLow : low ≤ Weighted.mean items :=
    Weighted.le_mean hlow.pos hne hlow.le
  have hmeanHigh : Weighted.mean items ≤ high.value :=
    Weighted.mean_le hne hhighLe
  obtain ⟨weak, hweak, hweakValue⟩ := hlow.mem
  obtain ⟨lowCategory, hlowMem, hlowScore⟩ := hitems.exists_category hweak
  obtain ⟨highCategory, hhighMem, hhighScore⟩ := hitems.exists_category hhigh
  rw [hweakValue] at hlowScore
  refine ⟨?_, ⟨_, huncapped, ?_, lowCategory, hlowMem, highCategory, hhighMem,
    ?_, ?_, ?_, ?_⟩, balanceIndex_bounds hcategories⟩
  · intro c hc
    obtain ⟨item, hitem, hscore⟩ := hitems.exists_item hc
    rw [hcap, hscore, Exact.fin_mul_fin, Exact.fin_le_fin, mul_comm factor]
    exact (min_le_right _ _).trans
      (mul_le_mul_of_nonneg_right (hlow.le item hitem) hfactorPos.le)
  · rw [hcap, Exact.fin_le_fin]
    exact min_le_left _ _
  · intro c hc
    obtain ⟨item, hitem, hscore⟩ := hitems.exists_item hc
    rw [hscore, hlowScore, hhighScore, Exact.fin_le_fin, Exact.fin_le_fin]
    exact ⟨hlow.le item hitem, hhighLe item hitem⟩
  · rw [hlowScore, Exact.one_eq, Exact.fin_sub_fin, Exact.fin_mul_fin,
      Exact.fin_le_fin, mul_comm (Weighted.mean items)]
    exact mul_le_mul hmLow hmeanLow hlow.pos.le (by linarith)
  · rw [hhighScore, Exact.one_eq, Exact.fin_mul_fin, Exact.fin_le_fin, one_mul]
    calc
      Weighted.mean items * m ≤ Weighted.mean items * 1 :=
        mul_le_mul_of_nonneg_left hmHigh (Weighted.mean_pos items).le
      _ = Weighted.mean items := mul_one _
      _ ≤ high.value := hmeanHigh
  · rw [hcap, hlowScore, Exact.fin_mul_fin, Exact.fin.injEq, Exact.fin.injEq,
      mul_comm factor]
    exact min_choice _ _

/-- The bounds for the current model and a run of one metric. -/
theorem total_bounds_hashRun :
    ∃ t, (ScoringModel.current.scoreRun .standard (hashRun 1900 none)).total =
        some t ∧
      ∀ c ∈ (ScoringModel.current.scoreRun .standard
          (hashRun 1900 none)).categories,
        t ≤ .fin 4 * c.score := by
  have hne : ScoringModel.current.contributions (hashRun 1900 none) ≠ [] := by
    rw [contributions_hashRun (by norm_num) none]
    exact List.cons_ne_nil _ _
  have hstability : ScoringModel.current.HasStability (hashRun 1900 none) := by
    intro cv hcv
    rw [referencedCvs_hashRun] at hcv
    exact absurd hcv (by simp [median])
  have hfactor : (4.0 : Exact) = .fin 4 := by
    rw [Exact.ofScientific_eq]
    norm_num
  have hspan : (0.10 : Exact) = .fin (1 / 10) := by
    rw [Exact.ofScientific_eq]
    norm_num
  obtain ⟨t, ht⟩ :=
    ScoringModel.exists_total_eq_some hasPositiveAnchors_current hne
  exact ⟨t, ht, (total_bounds hfactor (by norm_num) hspan (by norm_num)
    (by norm_num) hstability ht).1⟩

end Darcbench
