import Darcbench.Scoring.ExactCard

/-!
# Related runs have related cards

Two runs are compared whose contributions differ in their ratios only, and
there as a relation of positive numbers says.  A relation that geometric means
respect then holds between all the scores of the two cards.
-/

namespace Darcbench

open Weighted (RespectsMeans)

/-! ## Related numbers -/

/-- Two positive numbers that are related. -/
def Exact.PosRel (S : ℝ → ℝ → Prop) (a b : Exact) : Prop :=
  ∃ x y, 0 < x ∧ 0 < y ∧ a = .fin x ∧ b = .fin y ∧ S x y

namespace Exact.PosRel

variable {S : ℝ → ℝ → Prop} {a b a' b' : Exact}

theorem mul_anchor (hS : RespectsMeans S) (h : PosRel S a b) :
    PosRel S (a * referenceAnchor) (b * referenceAnchor) := by
  obtain ⟨x, y, hx, hy, rfl, rfl, hxy⟩ := h
  have hanchor : (0 : ℝ) < 1000 := by norm_num
  rw [referenceAnchor_eq, Exact.fin_mul_fin, Exact.fin_mul_fin]
  exact ⟨_, _, mul_pos hx hanchor, mul_pos hy hanchor, rfl, rfl,
    hS.mul_right hanchor hxy⟩

theorem div_anchor (hS : RespectsMeans S) (h : PosRel S a b) :
    PosRel S (a / referenceAnchor) (b / referenceAnchor) := by
  obtain ⟨x, y, hx, hy, rfl, rfl, hxy⟩ := h
  have hanchor : (0 : ℝ) < 1000⁻¹ := by norm_num
  rw [referenceAnchor_eq, Exact.fin_div_fin _ (by norm_num),
    Exact.fin_div_fin _ (by norm_num), div_eq_mul_inv, div_eq_mul_inv]
  exact ⟨_, _, mul_pos hx hanchor, mul_pos hy hanchor, rfl, rfl,
    hS.mul_right hanchor hxy⟩

theorem min (hS : RespectsMeans S) (h : PosRel S a b) (h' : PosRel S a' b') :
    PosRel S (F64.min a a') (F64.min b b') := by
  obtain ⟨x, y, hx, hy, rfl, rfl, hxy⟩ := h
  obtain ⟨x', y', hx', hy', rfl, rfl, hxy'⟩ := h'
  rw [Exact.min_fin, Exact.min_fin]
  exact ⟨_, _, lt_min hx hx', lt_min hy hy', rfl, rfl, hS.min hxy hxy'⟩

end Exact.PosRel

/-- Two weighted numbers with related values and the same weight. -/
def PairRel (S : ℝ → ℝ → Prop) (p q : Exact × Exact) : Prop :=
  Exact.PosRel S p.1 q.1 ∧ p.2 = q.2

/-- Usable pairs are related to usable pairs only. -/
theorem exists_items_of_pairRel
    {S : ℝ → ℝ → Prop} {items : List Weighted} {pairs : List (Exact × Exact)}
    (h : List.Forall₂ (PairRel S) (items.map Weighted.pair) pairs) :
    ∃ items', pairs = items'.map Weighted.pair ∧
      List.Forall₂ (fun a b => S a.value b.value ∧ a.weight = b.weight)
        items items' := by
  rw [List.forall₂_map_left_iff] at h
  induction h with
  | nil => exact ⟨[], rfl, List.Forall₂.nil⟩
  | @cons item pair items pairs hpair _ ih =>
      obtain ⟨items', rfl, hitems⟩ := ih
      obtain ⟨⟨x, y, _, hy, hvalue, hvalue', hxy⟩, hweight⟩ := hpair
      obtain rfl : item.value = x := Exact.fin.inj hvalue
      refine ⟨⟨y, item.weight, hy, item.weight_pos⟩ :: items', ?_,
        List.Forall₂.cons ⟨hxy, rfl⟩ hitems⟩
      rw [List.map_cons, Weighted.pair]
      exact congrArg (· :: _) (Prod.ext hvalue' hweight.symm)

theorem pairRel_flip
    {S : ℝ → ℝ → Prop} {pairs pairs' : List (Exact × Exact)}
    (h : List.Forall₂ (PairRel S) pairs pairs') :
    List.Forall₂ (PairRel (flip S)) pairs' pairs := by
  refine List.Forall₂.flip (h.imp ?_)
  rintro p q ⟨⟨x, y, hx, hy, hp, hq, hxy⟩, hweight⟩
  exact ⟨⟨y, x, hy, hx, hq, hp, hxy⟩, hweight.symm⟩

/-- Related pairs have related means, or no means at all. -/
theorem weightedGeometricMean_rel
    {S : ℝ → ℝ → Prop} (hS : RespectsMeans S)
    {pairs pairs' : List (Exact × Exact)}
    (h : List.Forall₂ (PairRel S) pairs pairs') :
    Option.Rel (Exact.PosRel S) (weightedGeometricMean pairs)
      (weightedGeometricMean pairs') := by
  cases hmean : weightedGeometricMean pairs with
  | some mean =>
      obtain ⟨items, hne, rfl, rfl⟩ :=
        weightedGeometricMean_eq_some_iff.mp hmean
      obtain ⟨items', rfl, hitems⟩ := exists_items_of_pairRel h
      have hne' : items' ≠ [] := by
        rintro rfl
        exact hne (List.forall₂_nil_right_iff.mp hitems)
      rw [weightedGeometricMean_map_pair hne']
      exact Option.Rel.some ⟨_, _, Weighted.mean_pos items,
        Weighted.mean_pos items', rfl, rfl, hS.mean hne hitems⟩
  | none =>
      cases hmean' : weightedGeometricMean pairs' with
      | none => exact Option.Rel.none
      | some mean =>
          obtain ⟨items', hne', rfl, rfl⟩ :=
            weightedGeometricMean_eq_some_iff.mp hmean'
          obtain ⟨items, rfl, hitems⟩ :=
            exists_items_of_pairRel (pairRel_flip h)
          have hne : items ≠ [] := by
            rintro rfl
            exact hne' (List.forall₂_nil_right_iff.mp hitems)
          rw [weightedGeometricMean_map_pair hne] at hmean
          exact absurd hmean (by simp)

/-- The weakest of related numbers. -/
theorem weakest_rel
    {S : ℝ → ℝ → Prop} (hS : RespectsMeans S) {scores scores' : List Exact}
    (h : List.Forall₂ (Exact.PosRel S) scores scores') :
    Option.Rel (Exact.PosRel S) (weakest scores) (weakest scores') := by
  have hfinite : List.Forall₂ (Exact.PosRel S)
      (scores.filter F64.isFinite) (scores'.filter F64.isFinite) := by
    refine List.rel_filter ?_ h
    rintro _ _ ⟨x, y, _, _, rfl, rfl, _⟩
    exact Iff.rfl
  refine List.rel_foldl ?_ Option.Rel.none hfinite
  rintro _ _ hacc a b hab
  cases hacc with
  | none => exact Option.Rel.some hab
  | some hcur => exact Option.Rel.some (hcur.min hS hab)

/-! ## Related runs -/

/-- Two contributions that differ in their ratios only. -/
structure Contribution.Rel (S : ℝ → ℝ → Prop) (c c' : Contribution Exact) :
    Prop where
  moduleId : c.moduleId = c'.moduleId
  category : c.category = c'.category
  facet : c.facet = c'.facet
  ratio : Exact.PosRel S c.ratio c'.ratio
  weight : c.weight = c'.weight

/-- Two runs with the same metrics, whose contributions are related. -/
structure ScoringModel.RelatedRuns (model : ScoringModel Exact)
    (S : ℝ → ℝ → Prop) (modules modules' : List (ModuleResult Exact)) :
    Prop where
  contributions : List.Forall₂ (Contribution.Rel S)
    (model.contributions modules) (model.contributions modules')
  referencedCvs : model.referencedCvs modules = model.referencedCvs modules'
  unreferenced :
    (readings (Sustained.scoringCycle modules) modules).filterMap
        model.unreferenced? =
      (readings (Sustained.scoringCycle modules') modules').filterMap
        model.unreferenced?

section Contributions

variable {S : ℝ → ℝ → Prop}
  {contributions contributions' : List (Contribution Exact)}

theorem categoryPairs_rel
    (h : List.Forall₂ (Contribution.Rel S) contributions contributions')
    (key : CategoryKey) :
    List.Forall₂ (PairRel S) (categoryPairs contributions key)
      (categoryPairs contributions' key) := by
  refine List.rel_map (fun {c c'} hc => ⟨hc.ratio, hc.weight⟩)
    (List.rel_filter (fun {c c'} hc => ?_) h)
  simp only [hc.category]

theorem facetPairs_rel
    (h : List.Forall₂ (Contribution.Rel S) contributions contributions')
    (facet : Facet) :
    List.Forall₂ (PairRel S) (facetPairs contributions facet)
      (facetPairs contributions' facet) := by
  refine List.rel_map (fun {c c'} hc => ⟨hc.ratio, hc.weight⟩)
    (List.rel_filter (fun {c c'} hc => ?_) h)
  simp only [hc.facet]

theorem categoryModules_eq
    (h : List.Forall₂ (Contribution.Rel S) contributions contributions')
    (key : CategoryKey) :
    categoryModules contributions key = categoryModules contributions' key := by
  have hids : List.Forall₂ Eq
      ((contributions.filter fun c => c.category = key).map (·.moduleId))
      ((contributions'.filter fun c => c.category = key).map (·.moduleId)) := by
    refine List.rel_map (fun {c c'} hc => hc.moduleId)
      (List.rel_filter (fun {c c'} hc => ?_) h)
    simp only [hc.category]
  rw [List.forall₂_eq_eq_eq] at hids
  rw [categoryModules, hids, categoryModules]

end Contributions

/-! ## Related cards -/

/-- Two category outcomes that differ in their scores only. -/
structure CategoryOutcome.Rel (S : ℝ → ℝ → Prop)
    (c c' : CategoryOutcome Exact) : Prop where
  key : c.key = c'.key
  label : c.label = c'.label
  score : Exact.PosRel S c.score c'.score
  weight : c.weight = c'.weight
  metricCount : c.metricCount = c'.metricCount
  modules : c.modules = c'.modules

/-- Two composite outcomes that differ in their scores only. -/
structure CompositeOutcome.Rel (S : ℝ → ℝ → Prop)
    (c c' : CompositeOutcome Exact) : Prop where
  key : c.key = c'.key
  label : c.label = c'.label
  score : Exact.PosRel S c.score c'.score
  weightCoverage : c.weightCoverage = c'.weightCoverage

section Outcomes

variable {S : ℝ → ℝ → Prop} (hS : RespectsMeans S)
  {contributions contributions' : List (Contribution Exact)}
  (h : List.Forall₂ (Contribution.Rel S) contributions contributions')

include hS h

theorem outcome?_rel (key : CategoryKey) :
    Option.Rel (CategoryOutcome.Rel S) (outcome? contributions key)
      (outcome? contributions' key) := by
  have hpairs := categoryPairs_rel h key
  have hmean := weightedGeometricMean_rel hS hpairs
  rw [outcome?, outcome?]
  revert hmean
  generalize weightedGeometricMean (categoryPairs contributions key) = gm
  generalize weightedGeometricMean (categoryPairs contributions' key) = gm'
  rintro (hgm | _)
  · exact Option.Rel.some
      { key := rfl
        label := rfl
        score := hgm.mul_anchor hS
        weight := rfl
        metricCount := hpairs.length_eq
        modules := by
          dsimp only
          rw [categoryModules_eq h key] }
  · exact Option.Rel.none

theorem outcomes_rel :
    List.Forall₂ (CategoryOutcome.Rel S) (outcomes contributions)
      (outcomes contributions') := by
  refine List.rel_filterMap (R := Eq) ?_ ?_
  · rintro key _ rfl
    exact outcome?_rel hS h key
  · rw [List.forall₂_eq_eq_eq]

theorem facetScores_rel (name : String) :
    Option.Rel (Exact.PosRel S) (facetScores contributions)[name]?
      (facetScores contributions')[name]? := by
  have hstep : ∀ (facets facets' : BTreeMap String Exact) (facet : Facet),
      (∀ name : String,
        Option.Rel (Exact.PosRel S) facets[name]? facets'[name]?) →
      ∀ name : String, Option.Rel (Exact.PosRel S)
        (insertScore facets facet (facetScore? contributions facet))[name]?
        (insertScore facets' facet
          (facetScore? contributions' facet))[name]? := by
    intro facets facets' facet hfacets name
    have hmean := weightedGeometricMean_rel hS (facetPairs_rel h facet)
    rw [facetScore?, facetScore?]
    revert hmean
    generalize weightedGeometricMean (facetPairs contributions facet) = gm
    generalize weightedGeometricMean (facetPairs contributions' facet) = gm'
    rintro (hgm | _)
    · rw [Option.map_some, Option.map_some, insertScore, insertScore,
        Std.ExtTreeMap.getElem?_insert, Std.ExtTreeMap.getElem?_insert]
      split
      · exact Option.Rel.some (hgm.mul_anchor hS)
      · exact hfacets name
    · exact hfacets name
  have hempty : ∀ name : String, Option.Rel (Exact.PosRel S)
      (∅ : BTreeMap String Exact)[name]? (∅ : BTreeMap String Exact)[name]? :=
    fun name => by
      rw [Std.ExtTreeMap.getElem?_empty]
      exact Option.Rel.none
  exact hstep _ _ _ (hstep _ _ _ hempty) name

theorem presentScores_rel (key : CategoryKey) :
    Option.Rel (Exact.PosRel S)
      (presentScores (outcomes contributions))[key]?
      (presentScores (outcomes contributions'))[key]? := by
  rw [getElem?_presentScores_outcomes, getElem?_presentScores_outcomes]
  have hrel := outcome?_rel hS h key
  revert hrel
  generalize outcome? contributions key = c
  generalize outcome? contributions' key = c'
  rintro (hc | _)
  · exact Option.Rel.some hc.score
  · exact Option.Rel.none

end Outcomes

/-- Related categories give related composites. -/
theorem compositeOutcome_rel
    {S : ℝ → ℝ → Prop} (hS : RespectsMeans S)
    {present present' : BTreeMap CategoryKey Exact}
    (h : ∀ key : CategoryKey,
      Option.Rel (Exact.PosRel S) present[key]? present'[key]?)
    (key : CompositeKey) :
    Option.Rel (CompositeOutcome.Rel S) (compositeOutcome present key)
      (compositeOutcome present' key) := by
  have hcontains : ∀ key : CategoryKey,
      present.contains key = present'.contains key :=
    fun key => BTreeMap.contains_eq_of_rel (h key)
  have hpairs : List.Forall₂ (PairRel S)
      (key.weights.filterMap fun (category, weight) =>
        (present[category]?).map fun score =>
          (score / (referenceAnchor : Exact), weight))
      (key.weights.filterMap fun (category, weight) =>
        (present'[category]?).map fun score =>
          (score / (referenceAnchor : Exact), weight)) := by
    refine List.rel_filterMap (R := Eq) ?_ ?_
    · rintro ⟨category, weight⟩ _ rfl
      have hrel := h category
      revert hrel
      dsimp only
      generalize present[category]? = score
      generalize present'[category]? = score'
      rintro (hscore | _)
      · exact Option.Rel.some ⟨hscore.div_anchor hS, rfl⟩
      · exact Option.Rel.none
    · rw [List.forall₂_eq_eq_eq]
  have hmean := weightedGeometricMean_rel hS hpairs
  rw [compositeOutcome, compositeOutcome]
  simp only [hcontains]
  split
  · exact Option.Rel.none
  · revert hmean
    generalize weightedGeometricMean (F := Exact) _ = gm
    generalize weightedGeometricMean (F := Exact) _ = gm'
    rintro (hgm | _)
    · exact Option.Rel.some
        { key := rfl
          label := rfl
          score := hgm.mul_anchor hS
          weightCoverage := rfl }
    · exact Option.Rel.none

/-- Two totals before the cap, under one stability multiplier. -/
def UncappedRel (S : ℝ → ℝ → Prop) (multiplier u u' : Exact) : Prop :=
  ∃ mean mean', Exact.PosRel S mean mean' ∧
    u = mean * multiplier ∧ u' = mean' * multiplier

/-- Two cards with related scores, and otherwise the same values. -/
structure ScoreCard.Rel (S : ℝ → ℝ → Prop) (card card' : ScoreCard Exact) :
    Prop where
  categories : List.Forall₂ (CategoryOutcome.Rel S) card.categories
    card'.categories
  facets : ∀ name : String,
    Option.Rel (Exact.PosRel S) card.facets[name]? card'.facets[name]?
  composites : List.Forall₂ (CompositeOutcome.Rel S) card.composites
    card'.composites
  medianCv : card.medianCv = card'.medianCv
  stabilityIndex : card.stabilityIndex = card'.stabilityIndex
  stabilityScore : card.stabilityScore = card'.stabilityScore
  stabilityMultiplier : card.stabilityMultiplier = card'.stabilityMultiplier
  missingRequiredCategories :
    card.missingRequiredCategories = card'.missingRequiredCategories
  unreferencedMetrics : card.unreferencedMetrics = card'.unreferencedMetrics
  uncappedTotal : Option.Rel (UncappedRel S card.stabilityMultiplier)
    card.uncappedTotal card'.uncappedTotal

theorem ScoreCard.Rel.scores
    {S : ℝ → ℝ → Prop} {card card' : ScoreCard Exact} (h : card.Rel S card') :
    List.Forall₂ (Exact.PosRel S) (card.categories.map (·.score))
      (card'.categories.map (·.score)) :=
  List.rel_map (fun {_ _} hc => hc.score) h.categories

/-- The category scores of related cards, as real numbers. -/
theorem ScoreCard.Rel.exists_hasScores
    {S : ℝ → ℝ → Prop} {card card' : ScoreCard Exact} (h : card.Rel S card')
    {items : List Weighted} (hitems : card.HasScores items) :
    ∃ items', card'.HasScores items' ∧
      List.Forall₂ (fun a b => S a.value b.value ∧ a.weight = b.weight)
        items items' := by
  have hpairs : List.Forall₂ (PairRel S)
      (card.categories.map fun c => (c.score, c.weight))
      (card'.categories.map fun c => (c.score, c.weight)) :=
    List.rel_map (fun {_ _} hc => ⟨hc.score, hc.weight⟩) h.categories
  rw [hitems] at hpairs
  exact exists_items_of_pairRel hpairs

/-- The cards of related runs are related. -/
theorem ScoringModel.RelatedRuns.scoreRun
    {model : ScoringModel Exact} {S : ℝ → ℝ → Prop} (hS : RespectsMeans S)
    {modules modules' : List (ModuleResult Exact)}
    (h : model.RelatedRuns S modules modules') (profile : Profile) :
    (model.scoreRun profile modules).Rel S
      (model.scoreRun profile modules') := by
  have hcategories : List.Forall₂ (CategoryOutcome.Rel S)
      (model.scoreRun profile modules).categories
      (model.scoreRun profile modules').categories := by
    rw [model.categories_scoreRun, model.categories_scoreRun]
    exact outcomes_rel hS h.contributions
  have hpresent := presentScores_rel hS h.contributions
  have hmedian : (model.scoreRun profile modules).medianCv =
      (model.scoreRun profile modules').medianCv := by
    rw [model.medianCv_scoreRun, model.medianCv_scoreRun, h.referencedCvs]
  have hindex : (model.scoreRun profile modules).stabilityIndex =
      (model.scoreRun profile modules').stabilityIndex :=
    congrArg (stabilityIndexOf model.cvCeiling) hmedian
  have hmultiplier : (model.scoreRun profile modules).stabilityMultiplier =
      (model.scoreRun profile modules').stabilityMultiplier :=
    congrArg (fun index => (1.0 - model.stabilityPenaltySpan) +
      model.stabilityPenaltySpan * index) hindex
  have hpairs : List.Forall₂ (PairRel S)
      ((model.scoreRun profile modules).categories.map
        fun c => (c.score / referenceAnchor, c.weight))
      ((model.scoreRun profile modules').categories.map
        fun c => (c.score / referenceAnchor, c.weight)) :=
    List.rel_map (fun {_ _} hc => ⟨hc.score.div_anchor hS, hc.weight⟩)
      hcategories
  exact
    { categories := hcategories
      facets := by
        rw [model.facets_scoreRun, model.facets_scoreRun]
        exact facetScores_rel hS h.contributions
      composites := by
        rw [model.composites_scoreRun, model.composites_scoreRun]
        refine List.rel_filterMap (R := Eq) ?_ ?_
        · rintro key _ rfl
          exact compositeOutcome_rel hS hpresent key
        · rw [List.forall₂_eq_eq_eq]
      medianCv := hmedian
      stabilityIndex := hindex
      stabilityScore := congrArg (· * referenceAnchor) hindex
      stabilityMultiplier := hmultiplier
      missingRequiredCategories := by
        rw [model.missingRequiredCategories_scoreRun,
          model.missingRequiredCategories_scoreRun]
        refine List.filter_congr fun key _ => ?_
        rw [BTreeMap.contains_eq_of_rel (hpresent key)]
      unreferencedMetrics := by
        rw [model.unreferencedMetrics_scoreRun,
          model.unreferencedMetrics_scoreRun, h.unreferenced]
      uncappedTotal := by
        have hmean := weightedGeometricMean_rel hS hpairs
        rw [model.uncappedTotal_scoreRun profile modules,
          model.uncappedTotal_scoreRun profile modules', ← hmultiplier]
        revert hmean
        generalize weightedGeometricMean (F := Exact) _ = gm
        generalize weightedGeometricMean (F := Exact) _ = gm'
        rintro (hgm | _)
        · exact Option.Rel.some ⟨_, _, hgm.mul_anchor hS, rfl, rfl⟩
        · exact Option.Rel.none }

end Darcbench
