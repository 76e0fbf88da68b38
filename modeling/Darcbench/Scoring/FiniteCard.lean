import Darcbench.Scoring.Stability
import Darcbench.Scoring.DirectionBlind

/-!
# Produced cards hold numbers only

Over exact arithmetic every number on a card that a model produces is finite,
as soon as the variations of the measured metrics are.  The values themselves
may be anything: unusable ones are left out before they reach a score.
-/

namespace Darcbench

/-! ## The numbers of a card -/

/-- All numbers of a sustained outcome satisfy `P`. -/
structure SustainedOutcome.AllNumbers {F : Type} (P : F → Prop)
    (outcome : SustainedOutcome F) : Prop where
  retention : P outcome.retention
  score : P outcome.score
  byMetric : ∀ (key : String) (value : F),
    outcome.byMetric[key]? = some value → P value

/-- All numbers of a card satisfy `P`. -/
structure ScoreCard.AllNumbers {F : Type} (P : F → Prop) (card : ScoreCard F) :
    Prop where
  total : ∀ t, card.total = some t → P t
  categories : ∀ c ∈ card.categories, P c.score ∧ P c.weight
  facets : ∀ (name : String) (score : F),
    card.facets[name]? = some score → P score
  composites : ∀ c ∈ card.composites, P c.score ∧ P c.weightCoverage
  stabilityScore : P card.stabilityScore
  stabilityIndex : P card.stabilityIndex
  stabilityMultiplier : P card.stabilityMultiplier
  uncappedTotal : ∀ u, card.uncappedTotal = some u → P u
  balanceIndex : ∀ b, card.balanceIndex = some b → P b
  efficiencyScore : ∀ e, card.efficiencyScore = some e → P e
  medianCv : ∀ cv, card.medianCv = some cv → P cv
  sustained : ∀ outcome, card.sustained = some outcome →
    outcome.AllNumbers P

/-- A number of exact arithmetic. -/
def Exact.IsFin (a : Exact) : Prop :=
  ∃ x, a = .fin x

namespace Exact

theorem isFin_fin (x : ℝ) : (fin x).IsFin :=
  ⟨x, rfl⟩

theorem IsFin.mul {a b : Exact} (ha : a.IsFin) (hb : b.IsFin) :
    (a * b).IsFin := by
  obtain ⟨x, rfl⟩ := ha
  obtain ⟨y, rfl⟩ := hb
  exact isFin_fin _

theorem isFin_referenceAnchor : (referenceAnchor : Exact).IsFin :=
  ⟨1000, referenceAnchor_eq⟩

end Exact

/-! ## Models with real parameters -/

/-- A model whose parameters are real numbers, with a ceiling to divide by. -/
structure ScoringModel.IsReal (model : ScoringModel Exact) : Prop where
  span : model.stabilityPenaltySpan.IsFin
  ceiling : ∃ ceiling : ℝ, ceiling ≠ 0 ∧ model.cvCeiling = .fin ceiling
  factor : model.weakLinkCapFactor.IsFin

/-- The implemented models have real parameters. -/
theorem isReal_of_forVersion
    {version : String} {model : ScoringModel Exact}
    (h : ScoringModel.forVersion version = some model) :
    model.IsReal := by
  have hceiling : ∃ ceiling : ℝ, ceiling ≠ 0 ∧ (0.20 : Exact) = .fin ceiling :=
    ⟨_, (ofScientific_pos true 2 (by norm_num)).ne', Exact.ofScientific_eq _ _ _⟩
  have hreal : (ScoringModel.current : ScoringModel Exact).IsReal :=
    ⟨⟨_, Exact.ofScientific_eq _ _ _⟩, hceiling,
      ⟨_, Exact.ofScientific_eq _ _ _⟩⟩
  rw [ScoringModel.forVersion] at h
  split at h
  · exact Option.some.inj h ▸ hreal
  · split at h
    · rw [← Option.some.inj h]
      exact ⟨hreal.span, hreal.ceiling, hreal.factor⟩
    · exact absurd h (by simp)

/-! ## Means -/

theorem isFin_of_weightedGeometricMean
    {pairs : List (Exact × Exact)} {gm : Exact}
    (h : weightedGeometricMean pairs = some gm) :
    gm.IsFin := by
  obtain ⟨items, _, _, rfl⟩ := weightedGeometricMean_eq_some_iff.mp h
  exact Exact.isFin_fin _

theorem isFin_of_geometricMean
    {values : List Exact} {gm : Exact} (h : geometricMean values = some gm) :
    gm.IsFin := by
  rw [geometricMean] at h
  split at h
  · exact absurd h (by simp)
  · next hguard =>
      rw [Bool.or_eq_true, not_or] at hguard
      obtain ⟨hempty, hany⟩ := hguard
      have hvalues : ∀ a ∈ values, ∃ x, 0 < x ∧ a = Exact.fin x := by
        intro a ha
        rw [Bool.not_eq_true, List.any_eq_false] at hany
        have hfinite := hany a ha
        rw [Bool.or_eq_true, not_or, Bool.not_eq_true', Bool.not_eq_false,
          decide_eq_true_eq] at hfinite
        exact (Exact.exists_pos_iff a).mp hfinite
      have hlogs : ∀ b ∈ values.map F64.ln, ∃ x, b = Exact.fin x := by
        intro b hb
        obtain ⟨a, ha, rfl⟩ := List.mem_map.mp hb
        obtain ⟨x, hx, rfl⟩ := hvalues a ha
        exact ⟨_, Exact.ln_fin hx⟩
      obtain ⟨x, hsum⟩ := Exact.exists_sum_eq_fin hlogs
      have hlength : (values.length : ℝ) ≠ 0 := by
        rw [Nat.cast_ne_zero, ne_eq, List.length_eq_zero_iff]
        simpa using hempty
      dsimp only at h
      rw [hsum, Exact.ofNat_eq, Exact.fin_div_fin _ hlength] at h
      exact ⟨_, (Option.some.inj h).symm⟩

/-! ## The parts of a card -/

theorem isFin_compositeOutcome
    {present : BTreeMap CategoryKey Exact} {key : CompositeKey}
    {composite : CompositeOutcome Exact}
    (h : compositeOutcome present key = some composite) :
    composite.score.IsFin ∧ composite.weightCoverage.IsFin := by
  have hweights : ∀ entry ∈ (key.weights : List (CategoryKey × Exact)),
      entry.2.IsFin := by
    cases key <;>
      simp only [CompositeKey.weights, List.forall_mem_cons] <;>
      and_intros <;>
      first
      | exact ⟨_, Exact.ofScientific_eq _ _ _⟩
      | exact fun _ h => absurd h List.not_mem_nil
  have hcovered : (F64.sum ((key.weights.filter fun entry =>
      present.contains entry.1).map Prod.snd) : Exact).IsFin := by
    refine Exact.exists_sum_eq_fin fun a ha => ?_
    obtain ⟨entry, hentry, rfl⟩ := List.mem_map.mp ha
    exact hweights entry (List.mem_filter.mp hentry).1
  rw [compositeOutcome] at h
  dsimp only at h
  split at h
  · exact absurd h (by simp)
  · obtain ⟨gm, hgm, rfl⟩ := Option.map_eq_some_iff.mp h
    exact ⟨(isFin_of_weightedGeometricMean hgm).mul Exact.isFin_referenceAnchor,
      hcovered⟩

theorem isFin_efficiencyOf
    {facets : BTreeMap String Exact}
    (hfacets : ∀ (name : String) (score : Exact),
      facets[name]? = some score → score.IsFin)
    {efficiency : Exact} (h : efficiencyOf facets = some efficiency) :
    efficiency.IsFin := by
  rw [efficiencyOf] at h
  obtain ⟨multi, _, h⟩ := Option.bind_eq_some_iff.mp h
  obtain ⟨single, hsingle, h⟩ := Option.bind_eq_some_iff.mp h
  split at h
  · rw [← Option.some.inj h]
    cases hgm : geometricMean [multi, single] with
    | some gm => exact isFin_of_geometricMean hgm
    | none => exact hfacets _ _ hsingle
  · exact absurd h (by simp)

/-- The retention of a run is a number. -/
theorem allNumbers_analyse
    {modules : List (ModuleResult Exact)} {outcome : SustainedOutcome Exact}
    (h : Sustained.analyse modules = some outcome) :
    outcome.AllNumbers Exact.IsFin := by
  by_cases hshort : (Sustained.completeCycles modules).length <
      Sustained.minCyclesForRetention
  · rw [Sustained.analyse_of_lt hshort] at h
    exact absurd h (by simp)
  · obtain ⟨result, hresult, hget⟩ :=
      Sustained.exists_retainedByMetric_seriesOf modules
    rw [Sustained.analyse_of_not_lt hshort, hresult, Option.bind_some] at h
    have hbyMetric := Sustained.byMetric_of_outcomeOf h
    rw [Sustained.outcomeOf] at h
    split at h
    · exact absurd h (by simp)
    · dsimp only at h
      split at h
      · exact absurd h (by simp)
      · next hfinite =>
          rw [Bool.not_eq_true', Bool.not_eq_false] at hfinite
          obtain ⟨r, hr⟩ := Exact.isFinite_eq_true_iff.mp hfinite
          rw [← Option.some.inj h]
          refine ⟨⟨r, hr⟩, ?_, ?_⟩
          · dsimp only
            rw [hr, Exact.one_eq, Exact.min_fin]
            exact (Exact.isFin_fin _).mul Exact.isFin_referenceAnchor
          · intro key value hvalue
            rw [hget] at hvalue
            obtain ⟨points, hpoints, hvalue⟩ :=
              Option.bind_eq_some_iff.mp hvalue
            obtain ⟨x, _, hx⟩ := exists_pos_of_retention? hpoints hvalue
            exact ⟨x, hx⟩

theorem isFin_applyWeakLinkCap
    {total factor : Exact} (htotal : total.IsFin) (hfactor : factor.IsFin)
    {items : List Weighted} (hne : items ≠ []) :
    (applyWeakLinkCap total ((items.map (·.value)).map Exact.fin)
      factor).IsFin := by
  obtain ⟨t, rfl⟩ := htotal
  obtain ⟨f, rfl⟩ := hfactor
  obtain ⟨low, _, hlow⟩ := exists_isWeakest hne
  rw [applyWeakLinkCap, hlow]
  dsimp only
  split
  · rw [Exact.fin_mul_fin, Exact.min_fin]
    exact Exact.isFin_fin _
  · exact Exact.isFin_fin _

/-- Finite variations give a card of numbers. -/
theorem allNumbers_scoreRun
    {model : ScoringModel Exact} (hmodel : model.IsReal) (profile : Profile)
    {modules : List (ModuleResult Exact)}
    (hcvs : ∀ cv ∈ model.referencedCvs modules, cv.IsFin) :
    (model.scoreRun profile modules).AllNumbers Exact.IsFin := by
  obtain ⟨ceiling, hne, hceiling⟩ := hmodel.ceiling
  obtain ⟨span, hspan⟩ := hmodel.span
  have hindex : (model.scoreRun profile modules).stabilityIndex.IsFin := by
    obtain ⟨i, _, _, hi⟩ := exists_stabilityIndex_eq
      (ScoringModel.hasStability_of_fin hceiling hne hcvs)
    exact ⟨i, (model.stabilityIndex_scoreRun profile modules).trans hi⟩
  have hmultiplier :
      (model.scoreRun profile modules).stabilityMultiplier.IsFin := by
    obtain ⟨i, hi⟩ := hindex
    rw [model.stabilityMultiplier_scoreRun, hi, hspan, Exact.one_eq]
    exact Exact.isFin_fin _
  have hfacets : ∀ (name : String) (score : Exact),
      (model.scoreRun profile modules).facets[name]? = some score →
        score.IsFin := by
    intro name score hscore
    rw [model.facets_scoreRun] at hscore
    obtain ⟨facet, hfacet⟩ := exists_facetScore?_eq_some hscore
    obtain ⟨gm, hgm, rfl⟩ := Option.map_eq_some_iff.mp hfacet
    exact (isFin_of_weightedGeometricMean hgm).mul Exact.isFin_referenceAnchor
  obtain ⟨items, hitems⟩ := exists_hasScores_scoreRun model profile modules
  have huncapped : ∀ u, (model.scoreRun profile modules).uncappedTotal =
      some u → items ≠ [] ∧ u.IsFin := by
    intro u hu
    have hitemsNe : items ≠ [] := by
      rintro rfl
      rw [ScoringModel.uncappedTotal_eq_none hitems] at hu
      exact absurd hu (by simp)
    rw [ScoringModel.uncappedTotal_eq hitems hitemsNe] at hu
    exact ⟨hitemsNe, Option.some.inj hu ▸ (Exact.isFin_fin _).mul hmultiplier⟩
  exact
    { total := by
        intro t ht
        rw [model.total_scoreRun] at ht
        obtain ⟨u, hu, rfl⟩ := Option.map_eq_some_iff.mp ht
        obtain ⟨hitemsNe, hfin⟩ := huncapped u hu
        rw [hitems.map_score]
        exact isFin_applyWeakLinkCap hfin hmodel.factor hitemsNe
      categories := by
        intro c hc
        rw [model.categories_scoreRun] at hc
        obtain ⟨key, _, hkey⟩ := List.mem_filterMap.mp hc
        obtain ⟨item, hitem⟩ := exists_item_of_outcome?_eq_some hkey
        exact ⟨⟨_, congrArg Prod.fst hitem⟩, ⟨_, congrArg Prod.snd hitem⟩⟩
      facets := hfacets
      composites := by
        intro c hc
        rw [model.composites_scoreRun] at hc
        obtain ⟨key, _, hkey⟩ := List.mem_filterMap.mp hc
        exact isFin_compositeOutcome hkey
      stabilityScore := hindex.mul Exact.isFin_referenceAnchor
      stabilityIndex := hindex
      stabilityMultiplier := hmultiplier
      uncappedTotal := fun u hu => (huncapped u hu).2
      balanceIndex := by
        intro b hb
        by_cases hitemsNe : items = []
        · subst hitemsNe
          rw [model.balanceIndex_scoreRun, hitems.map_score] at hb
          exact absurd hb (by simp [balanceIndexOf, weakest])
        · obtain ⟨low, _, hlow⟩ := exists_isWeakest hitemsNe
          rw [ScoringModel.balanceIndex_eq hitems hitemsNe hlow] at hb
          exact ⟨_, (Option.some.inj hb).symm⟩
      efficiencyScore := fun e he => isFin_efficiencyOf hfacets he
      medianCv := by
        intro cv hcv
        rw [model.medianCv_scoreRun] at hcv
        exact median_eq_fin hcvs hcv
      sustained := fun outcome houtcome => allNumbers_analyse houtcome }

end Darcbench
