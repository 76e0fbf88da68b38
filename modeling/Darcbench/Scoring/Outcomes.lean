import Darcbench.Scoring.Contributions

/-!
# The card in terms of contributions

Each part of a score card is expressed by the contributions of the scored
cycle.  Two runs with the same contributions therefore have the same scores,
and a relation between contributions becomes a relation between cards.
-/

namespace Darcbench

variable {F : Type} [F64 F]

/-! ## Categories -/

/-- The outcome of a category in terms of what contributed to it. -/
def outcome? (contributions : List (Contribution F)) (key : CategoryKey) :
    Option (CategoryOutcome F) :=
  (weightedGeometricMean (categoryPairs contributions key)).map fun gm =>
    { key := key
      label := key.label
      score := gm * referenceAnchor
      weight := key.standardWeight
      metricCount := (categoryPairs contributions key).length
      modules := (categoryModules contributions key).sort (· ≤ ·) }

theorem key_eq_of_outcome?_eq_some
    {contributions : List (Contribution F)} {key : CategoryKey}
    {category : CategoryOutcome F}
    (h : outcome? contributions key = some category) :
    category.key = key := by
  obtain ⟨gm, _, rfl⟩ := Option.map_eq_some_iff.mp h
  rfl

theorem categoryOutcome_eq
    {model : ScoringModel F} {tally : Tally F}
    {seen : List (String × Metric F)}
    (h : Tally.Describes model tally seen) (key : CategoryKey) :
    categoryOutcome tally key =
      outcome? (seen.filterMap model.contribution?) key := by
  have hpairs := h.byCategory key
  have hmodules := h.modulesByCategory key
  have hsort : ∀ ids : Option (Finset String),
      (ids.map fun ids => ids.sort (· ≤ ·)).getD [] =
        (ids.getD ∅).sort (· ≤ ·) := by
    intro ids
    cases ids with
    | none => exact (Finset.sort_empty (· ≤ ·)).symm
    | some ids => rfl
  rw [categoryOutcome, outcome?, ← hpairs, ← hmodules, hsort]
  cases tally.byCategory[key]? with
  | none => rfl
  | some pairs =>
      cases pairs with
      | nil => rfl
      | cons pair rest =>
          rw [Option.map_eq_bind]
          rfl

/-! ## Facets -/

/-- The score of a facet in terms of what contributed to it. -/
def facetScore? (contributions : List (Contribution F)) (facet : Facet) :
    Option F :=
  (weightedGeometricMean (facetPairs contributions facet)).map
    (· * referenceAnchor)

/-- Adds a score to the facet scores, if there is one. -/
def insertScore (facets : BTreeMap String F) (facet : Facet)
    (score : Option F) : BTreeMap String F :=
  match score with
  | some score => facets.insert facet.key score
  | none => facets

theorem insertFacet_eq
    {model : ScoringModel F} {tally : Tally F}
    {seen : List (String × Metric F)}
    (h : Tally.Describes model tally seen) (facets : BTreeMap String F)
    (facet : Facet) :
    insertFacet tally facets facet =
      insertScore facets facet
        (facetScore? (seen.filterMap model.contribution?) facet) := by
  have hpairs := h.byFacet facet
  rw [insertFacet, facetScore?, ← hpairs]
  cases tally.byFacet[facet]? with
  | none => rfl
  | some pairs =>
      rw [Option.bind_some, Option.getD_some]
      cases weightedGeometricMean pairs <;> rfl

/-- All facet scores in terms of the contributions. -/
def facetScores (contributions : List (Contribution F)) : BTreeMap String F :=
  [Facet.singleCore, Facet.multiCore].foldl
    (fun facets facet =>
      insertScore facets facet (facetScore? contributions facet)) ∅

/-- Every value among the facet scores is the score of a facet. -/
theorem exists_facetScore?_eq_some
    {contributions : List (Contribution F)} {name : String} {score : F}
    (h : (facetScores contributions)[name]? = some score) :
    ∃ facet, facetScore? contributions facet = some score := by
  have hstep : ∀ (facets : BTreeMap String F) (facet : Facet) (score : F),
      (insertScore facets facet (facetScore? contributions facet))[name]? =
        some score →
      facets[name]? = some score ∨
        facetScore? contributions facet = some score := by
    intro facets facet score h
    cases hfacet : facetScore? contributions facet with
    | none =>
        rw [hfacet] at h
        exact Or.inl h
    | some value =>
        rw [hfacet, insertScore, Std.ExtTreeMap.getElem?_insert] at h
        split at h
        · exact Or.inr h
        · exact Or.inl h
  rcases hstep _ _ _ h with h | h
  · rcases hstep _ _ _ h with h | h
    · rw [Std.ExtTreeMap.getElem?_empty] at h
      exact absurd h (by simp)
    · exact ⟨_, h⟩
  · exact ⟨_, h⟩

/-! ## The card -/

/-- The categories of the card in terms of the contributions. -/
def outcomes (contributions : List (Contribution F)) :
    List (CategoryOutcome F) :=
  CategoryKey.all.filterMap (outcome? contributions)

namespace ScoringModel

theorem categories_scoreRun
    (model : ScoringModel F) (profile : Profile)
    (modules : List (ModuleResult F)) :
    (model.scoreRun profile modules).categories =
      outcomes (model.contributions modules) := by
  have h := model.describes_tally modules
  exact congrArg (fun f => CategoryKey.all.filterMap f)
    (funext fun key => categoryOutcome_eq h key)

theorem facets_scoreRun
    (model : ScoringModel F) (profile : Profile)
    (modules : List (ModuleResult F)) :
    (model.scoreRun profile modules).facets =
      facetScores (model.contributions modules) := by
  have h := model.describes_tally modules
  exact congrArg (fun f => [Facet.singleCore, Facet.multiCore].foldl f ∅)
    (funext fun facets => funext fun facet => insertFacet_eq h facets facet)

theorem composites_scoreRun
    (model : ScoringModel F) (profile : Profile)
    (modules : List (ModuleResult F)) :
    (model.scoreRun profile modules).composites =
      CompositeKey.all.filterMap (compositeOutcome
        (presentScores (outcomes (model.contributions modules)))) := by
  rw [← categories_scoreRun model profile]
  rfl

theorem missingRequiredCategories_scoreRun
    (model : ScoringModel F) (profile : Profile)
    (modules : List (ModuleResult F)) :
    (model.scoreRun profile modules).missingRequiredCategories =
      CategoryKey.requiredForStandardTotal.filter fun key =>
        !(presentScores (outcomes (model.contributions modules))).contains
          key := by
  rw [← categories_scoreRun model profile]
  rfl

theorem medianCv_scoreRun
    (model : ScoringModel F) (profile : Profile)
    (modules : List (ModuleResult F)) :
    (model.scoreRun profile modules).medianCv =
      Darcbench.median (model.referencedCvs modules) :=
  congrArg Darcbench.median (model.describes_tally modules).cvs

theorem uncappedTotal_scoreRun
    (model : ScoringModel F) (profile : Profile)
    (modules : List (ModuleResult F)) :
    (model.scoreRun profile modules).uncappedTotal =
      (weightedGeometricMean
        ((model.scoreRun profile modules).categories.map
          fun c => (c.score / referenceAnchor, c.weight))).map
        fun gm => gm * referenceAnchor *
          (model.scoreRun profile modules).stabilityMultiplier :=
  rfl

theorem total_scoreRun
    (model : ScoringModel F) (profile : Profile)
    (modules : List (ModuleResult F)) :
    (model.scoreRun profile modules).total =
      (model.scoreRun profile modules).uncappedTotal.map fun t =>
        applyWeakLinkCap t
          ((model.scoreRun profile modules).categories.map (·.score))
          model.weakLinkCapFactor :=
  rfl

theorem balanceIndex_scoreRun
    (model : ScoringModel F) (profile : Profile)
    (modules : List (ModuleResult F)) :
    (model.scoreRun profile modules).balanceIndex =
      balanceIndexOf
        ((model.scoreRun profile modules).categories.map (·.score)) :=
  rfl

theorem unreferencedMetrics_scoreRun
    (model : ScoringModel F) (profile : Profile)
    (modules : List (ModuleResult F)) :
    (model.scoreRun profile modules).unreferencedMetrics =
      (readings (Sustained.scoringCycle modules) modules).filterMap
        model.unreferenced? :=
  (model.describes_tally modules).unreferenced

end ScoringModel

/-! ## The scores that composites read -/

/-- The present scores are the scores of the categories with an outcome. -/
theorem getElem?_presentScores_outcomes
    (contributions : List (Contribution F)) (key : CategoryKey) :
    (presentScores (outcomes contributions))[key]? =
      (outcome? contributions key).map (·.score) := by
  have hkeys : (((outcomes contributions).map fun c =>
      (c.key, c.score)).map Prod.fst).Nodup := by
    rw [List.map_map, List.Nodup, List.pairwise_map, outcomes,
      List.pairwise_filterMap]
    have hall : CategoryKey.all.Pairwise (· ≠ ·) := by decide
    refine hall.imp fun hne c hc c' hc' heq => hne ?_
    rw [← key_eq_of_outcome?_eq_some hc, ← key_eq_of_outcome?_eq_some hc']
    exact heq
  rw [presentScores]
  cases houtcome : outcome? contributions key with
  | some category =>
      refine BTreeMap.getElem?_ofList_of_mem hkeys (List.mem_map.mpr ?_)
      refine ⟨category, ?_, ?_⟩
      · exact List.mem_filterMap.mpr ⟨key, key.mem_all, houtcome⟩
      · rw [key_eq_of_outcome?_eq_some houtcome]
  | none =>
      apply BTreeMap.getElem?_ofList_eq_none
      intro hmem
      obtain ⟨entry, hentry, hkey⟩ := List.mem_map.mp hmem
      obtain ⟨category, hcategory, rfl⟩ := List.mem_map.mp hentry
      obtain ⟨key', _, hsome⟩ := List.mem_filterMap.mp hcategory
      rw [← hkey, key_eq_of_outcome?_eq_some hsome, hsome] at houtcome
      exact absurd houtcome (by simp)

end Darcbench
