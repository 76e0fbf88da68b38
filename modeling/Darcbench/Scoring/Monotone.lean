import Darcbench.Scoring.Scaling
import Darcbench.Scoring.Stability

/-!
# Scores are monotone in performance

Improving metrics in the direction of their anchors lowers no score, and raises
the scores of the categories of the improved metrics.  The totals pass through
the stability multiplier, so for them the penalty span may not exceed one.
-/

namespace Darcbench

open Weighted (RespectsMeans respectsMeans_le)

/-! ## Values that were not lowered -/

/-- A value that stayed the same, or a number that did not fall. -/
inductive Exact.NotLowered : Exact → Exact → Prop where
  | fin {x y : ℝ} (h : x ≤ y) : NotLowered (.fin x) (.fin y)
  | same (a : Exact) : NotLowered a a

namespace Exact.NotLowered

theorem not_lt {a b : Exact} (h : NotLowered a b) : ¬ b < a := by
  cases h with
  | fin h => exact not_lt_of_ge h
  | same =>
      cases a with
      | fin x => exact lt_irrefl x
      | inf => exact fun h => h
      | negInf => exact fun h => h
      | nan => exact fun h => h

theorem of_posRel {a b : Exact} (h : PosRel (· ≤ ·) a b) : NotLowered a b := by
  obtain ⟨x, y, _, _, rfl, rfl, hxy⟩ := h
  exact fin hxy

theorem min {a b a' b' : Exact} (h : NotLowered a b) (h' : NotLowered a' b') :
    NotLowered (F64.min a a') (F64.min b b') := by
  cases h with
  | fin h =>
      cases h' with
      | fin h' =>
          rw [min_fin, min_fin]
          exact fin (min_le_min h h')
      | same =>
          cases a' with
          | fin z =>
              rw [min_fin, min_fin]
              exact fin (min_le_min h le_rfl)
          | inf =>
              rw [min_fin_inf, min_fin_inf]
              exact fin h
          | negInf =>
              rw [min_fin_negInf, min_fin_negInf]
              exact same _
          | nan =>
              rw [min_fin_nan, min_fin_nan]
              exact fin h
  | same =>
      cases h' with
      | fin h' =>
          cases a with
          | fin z =>
              rw [min_fin, min_fin]
              exact fin (min_le_min le_rfl h')
          | inf =>
              rw [min_inf_fin, min_inf_fin]
              exact fin h'
          | negInf =>
              rw [min_negInf_fin, min_negInf_fin]
              exact same _
          | nan =>
              rw [min_nan, min_nan]
              exact fin h'
      | same => exact same _

/-- A factor that is no negative number keeps positive numbers in order. -/
theorem mul {a b m : Exact} (h : PosRel (· ≤ ·) a b)
    (hm : ∀ r, m = .fin r → 0 ≤ r) :
    NotLowered (a * m) (b * m) := by
  obtain ⟨x, y, hx, hy, rfl, rfl, hxy⟩ := h
  cases m with
  | fin r =>
      rw [fin_mul_fin, fin_mul_fin]
      exact fin (mul_le_mul_of_nonneg_right hxy (hm r rfl))
  | inf =>
      rw [fin_mul_inf hx, fin_mul_inf hy]
      exact same _
  | negInf =>
      rw [fin_mul_negInf hx, fin_mul_negInf hy]
      exact same _
  | nan => exact same _

end Exact.NotLowered

/-! ## Improved runs -/

/-- A larger value where higher is better, and a smaller one otherwise. -/
def Direction.Improves (direction : Direction) (x y : ℝ) : Prop :=
  match direction with
  | .higherIsBetter => x < y
  | .lowerIsBetter => y < x

theorem Direction.ratio_lt_ratio
    {direction : Direction} {x y reference : ℝ}
    (h : direction.Improves x y) (hy : 0 < y)
    (hreference : 0 < reference) :
    direction.ratio x reference < direction.ratio y reference := by
  cases direction with
  | higherIsBetter => exact div_lt_div_of_pos_right h hreference
  | lowerIsBetter => exact div_lt_div_of_pos_left hreference hy h

/-- The same metric, or a metric with an anchor that is better by its
direction, and otherwise the same. -/
inductive ImprovedMetric (model : ScoringModel Exact) (moduleId : String)
    (metric metric' : Metric Exact) : Prop where
  | same (h : metric' = metric)
  | better (reference : ReferencePoint Exact)
      (hreference : model.reference.get moduleId metric.key = some reference)
      (x y : ℝ) (hx : 0 < x) (hy : 0 < y) (hvalue : metric.value = .fin x)
      (h : metric' = { metric with value := .fin y })
      (himproves : reference.direction.Improves x y)

/-- A run in which some metrics of another are improved. -/
def ImprovedRun (model : ScoringModel Exact)
    (modules modules' : List (ModuleResult Exact)) : Prop :=
  Remeasured
    (fun module => ImprovedMetric model module.module.id.asStr)
    modules modules'

theorem contribution?_rel_self
    (model : ScoringModel Exact) (reading : String × Metric Exact) :
    Option.Rel (Contribution.Rel (· ≤ ·)) (model.contribution? reading)
      (model.contribution? reading) := by
  cases hcontribution : model.contribution? reading with
  | none => exact Option.Rel.none
  | some contribution =>
      obtain ⟨reference, _, hsome⟩ := Option.bind_eq_some_iff.mp hcontribution
      obtain ⟨ratio, hratio, hsome⟩ := Option.bind_eq_some_iff.mp hsome
      obtain rfl := Option.some.inj hsome
      obtain ⟨x, y, hx, hy, _, _, rfl⟩ := normalise_eq_some_iff.mp hratio
      have hpos := reference.direction.ratio_pos hx hy
      exact Option.Rel.some
        { moduleId := rfl
          category := rfl
          facet := rfl
          ratio := ⟨_, _, hpos, hpos, rfl, rfl, le_rfl⟩
          weight := rfl }

/-- What an improved metric contributes before and after. -/
theorem exists_contribution_of_better
    {model : ScoringModel Exact} (hanchors : model.HasPositiveAnchors)
    {moduleId : String} {metric : Metric Exact}
    {reference : ReferencePoint Exact}
    (hreference : model.reference.get moduleId metric.key = some reference)
    {x y : ℝ} (hx : 0 < x) (hy : 0 < y) (hvalue : metric.value = .fin x)
    (himproves : reference.direction.Improves x y) :
    ∃ c c', model.contribution? (moduleId, metric) = some c ∧
      model.contribution? (moduleId, { metric with value := .fin y }) =
        some c' ∧
      c.category = reference.category ∧
      Contribution.Rel (· < ·) c c' := by
  obtain ⟨r, _, hr, _, hanchor, _⟩ := hanchors _ _ _ hreference
  have hcontribution : ∀ (measured : Metric Exact) {v : ℝ}, 0 < v →
      measured.key = metric.key → measured.value = .fin v →
      model.contribution? (moduleId, measured) =
        some
          { moduleId := moduleId
            category := reference.category
            facet := reference.facet
            ratio := .fin (reference.direction.ratio v r)
            weight := reference.weight } := by
    intro measured v hv hkey hmeasured
    simp only [ScoringModel.contribution?, hkey, hreference, hmeasured,
      hanchor, normalise_fin _ hv hr, Option.bind_eq_bind, Option.bind_some]
  refine ⟨_, _, hcontribution metric hx rfl hvalue,
    hcontribution _ hy rfl rfl, rfl, ?_⟩
  exact
    { moduleId := rfl
      category := rfl
      facet := rfl
      ratio := ⟨_, _, reference.direction.ratio_pos hx hr,
        reference.direction.ratio_pos hy hr, rfl, rfl,
        Direction.ratio_lt_ratio himproves hy hr⟩
      weight := rfl }

theorem Contribution.Rel.le {c c' : Contribution Exact}
    (h : Contribution.Rel (· < ·) c c') :
    Contribution.Rel (· ≤ ·) c c' := by
  obtain ⟨x, y, hx, hy, hratio, hratio', hxy⟩ := h.ratio
  exact ⟨h.moduleId, h.category, h.facet,
    ⟨x, y, hx, hy, hratio, hratio', le_of_lt hxy⟩, h.weight⟩

theorem ImprovedMetric.metricRel
    {model : ScoringModel Exact} (hanchors : model.HasPositiveAnchors)
    {moduleId : String} {metric metric' : Metric Exact}
    (h : ImprovedMetric model moduleId metric metric') :
    MetricRel model (· ≤ ·) moduleId metric metric' := by
  cases h with
  | same h =>
      subst h
      exact ⟨rfl, rfl, contribution?_rel_self model _⟩
  | better reference hreference x y hx hy hvalue h himproves =>
      subst h
      obtain ⟨c, c', hc, hc', _, hrel⟩ := exists_contribution_of_better
        hanchors hreference hx hy hvalue himproves
      refine ⟨rfl, rfl, ?_⟩
      rw [hc, hc']
      exact Option.Rel.some hrel.le

theorem ImprovedRun.relatedRuns
    {model : ScoringModel Exact} (hanchors : model.HasPositiveAnchors)
    {modules modules' : List (ModuleResult Exact)}
    (h : ImprovedRun model modules modules') :
    model.RelatedRuns (· ≤ ·) modules modules' :=
  Remeasured.relatedRuns h fun _ _ _ _ hab => hab.metricRel hanchors

/-! ## The categories of improved metrics -/

/-- The pair that a contribution adds to a category. -/
def categoryPair? (key : CategoryKey) (c : Contribution Exact) :
    Option (Exact × Exact) :=
  if c.category = key then some (c.ratio, c.weight) else none

theorem categoryPairs_eq_filterMap
    (contributions : List (Contribution Exact)) (key : CategoryKey) :
    categoryPairs contributions key =
      contributions.filterMap (categoryPair? key) := by
  rw [categoryPairs]
  induction contributions with
  | nil => rfl
  | cons c rest ih =>
      have hhead : List.filterMap (categoryPair? key) (c :: rest) =
          (categoryPair? key c).toList ++ rest.filterMap (categoryPair? key) := by
        rw [List.filterMap_cons]
        cases categoryPair? key c <;> rfl
      rw [hhead, ← ih, categoryPair?]
      by_cases hkey : c.category = key
      · simp [hkey]
      · simp [hkey]

section Strict

variable {model : ScoringModel Exact} (hanchors : model.HasPositiveAnchors)
  {modules modules' : List (ModuleResult Exact)}
  (h : ImprovedRun model modules modules')

include hanchors h

/-- An improved metric of the scored cycle contributes more than before. -/
theorem exists_contributions_of_improved
    {reading reading' : String × Metric Exact}
    (hmem : (reading, reading') ∈
      (readings (Sustained.scoringCycle modules) modules).zip
        (readings (Sustained.scoringCycle modules') modules'))
    {reference : ReferencePoint Exact}
    (hreference :
      model.reference.get reading.1 reading.2.key = some reference)
    (hne : reading.2.value ≠ reading'.2.value) :
    ∃ c c', (c, c') ∈ (model.contributions modules).zip
        (model.contributions modules') ∧
      c.category = reference.category ∧ Contribution.Rel (· < ·) c c' := by
  rw [← Remeasured.scoringCycle_eq h] at hmem
  have hreadings :=
    Remeasured.readings_rel h (Sustained.scoringCycle modules)
  have hsome : List.Forall₂
      (fun reading reading' => (model.contribution? reading).isSome =
        (model.contribution? reading').isSome)
      (readings (Sustained.scoringCycle modules) modules)
      (readings (Sustained.scoringCycle modules) modules') := by
    refine hreadings.imp ?_
    rintro ⟨_, a⟩ ⟨_, b⟩ ⟨module, _, rfl, rfl, hab⟩
    exact isSome_eq_of_rel (hab.metricRel hanchors).contribution
  obtain ⟨id, metric⟩ := reading
  obtain ⟨id', metric'⟩ := reading'
  obtain ⟨module, _, hid, hid', hmetric⟩ :=
    (List.forall₂_iff_zip.mp hreadings).2 hmem
  obtain rfl : id = module.module.id.asStr := hid
  obtain rfl : id' = module.module.id.asStr := hid'
  cases hmetric with
  | same heq =>
      subst heq
      exact absurd rfl hne
  | better reference' hreference' x y hx hy hvalue heq himproves =>
      have heq : reference' = reference :=
        Option.some.inj (hreference'.symm.trans hreference)
      subst heq
      obtain ⟨c, c', hc, hc', hcategory, hrel⟩ := exists_contribution_of_better
        hanchors hreference' hx hy hvalue himproves
      refine ⟨c, c', ?_, hcategory, hrel⟩
      rw [ScoringModel.contributions, ScoringModel.contributions,
        ← Remeasured.scoringCycle_eq h]
      subst_vars
      exact mem_zip_filterMap hsome hmem hc hc'

/-- The category of an improved metric has a higher score than before. -/
theorem exists_outcomes_lt
    {reading reading' : String × Metric Exact}
    (hmem : (reading, reading') ∈
      (readings (Sustained.scoringCycle modules) modules).zip
        (readings (Sustained.scoringCycle modules') modules'))
    {reference : ReferencePoint Exact}
    (hreference :
      model.reference.get reading.1 reading.2.key = some reference)
    (hne : reading.2.value ≠ reading'.2.value) :
    ∃ c c',
      outcome? (model.contributions modules) reference.category = some c ∧
      outcome? (model.contributions modules') reference.category = some c' ∧
      c.score < c'.score := by
  obtain ⟨c, c', hzip, hcategory, hrel⟩ :=
    exists_contributions_of_improved hanchors h hmem hreference hne
  have hruns := (h.relatedRuns hanchors).contributions
  have hpairs := categoryPairs_rel hruns reference.category
  obtain ⟨items, hitems⟩ :=
    exists_items_categoryPairs hanchors modules reference.category
  obtain ⟨items', hitems', hdominates⟩ :=
    exists_items_of_pairRel (hitems ▸ hpairs)
  have hsome : List.Forall₂
      (fun c c' => (categoryPair? reference.category c).isSome =
        (categoryPair? reference.category c').isSome)
      (model.contributions modules) (model.contributions modules') := by
    refine hruns.imp fun c c' hc => ?_
    rw [categoryPair?, categoryPair?, hc.category]
    split <;> rfl
  have hpair : ((c.ratio, c.weight), (c'.ratio, c'.weight)) ∈
      (items.map Weighted.pair).zip (items'.map Weighted.pair) := by
    rw [← hitems, ← hitems', categoryPairs_eq_filterMap,
      categoryPairs_eq_filterMap]
    exact mem_zip_filterMap hsome hzip (if_pos hcategory)
      (if_pos (hrel.category ▸ hcategory))
  rw [List.zip_map, List.mem_map] at hpair
  obtain ⟨⟨item, item'⟩, hitem, hequal⟩ := hpair
  have hlt : item.value < item'.value := by
    obtain ⟨x, y, _, _, hx, hy, hxy⟩ := hrel.ratio
    have hvalue : Exact.fin item.value = c.ratio :=
      congrArg (fun p : (Exact × Exact) × (Exact × Exact) => p.1.1) hequal
    have hvalue' : Exact.fin item'.value = c'.ratio :=
      congrArg (fun p : (Exact × Exact) × (Exact × Exact) => p.2.1) hequal
    rw [hx] at hvalue
    rw [hy] at hvalue'
    rwa [Exact.fin.inj hvalue, Exact.fin.inj hvalue']
  have hne : items ≠ [] := List.ne_nil_of_mem (List.of_mem_zip hitem).1
  have hne' : items' ≠ [] := List.ne_nil_of_mem (List.of_mem_zip hitem).2
  have hmean : Weighted.mean items < Weighted.mean items' :=
    Weighted.mean_lt_mean hdominates ⟨(item, item'), hitem, hlt⟩
  rw [outcome?, outcome?, hitems, hitems', weightedGeometricMean_map_pair hne,
    weightedGeometricMean_map_pair hne']
  refine ⟨_, _, rfl, rfl, ?_⟩
  dsimp only
  rw [referenceAnchor_eq, Exact.fin_mul_fin, Exact.fin_mul_fin,
    Exact.fin_lt_fin]
  exact mul_lt_mul_of_pos_right hmean (by norm_num)

end Strict

/-! ## Cards that were not lowered -/

/-- A card with no lower score than another, and otherwise the same
stability and the same gaps. -/
structure ScoreCard.NotLowered (card card' : ScoreCard Exact) : Prop where
  categories : List.Forall₂ (fun c c' => c.key = c'.key ∧ c.score ≤ c'.score)
    card.categories card'.categories
  facets : ∀ name : String,
    Option.Rel (· ≤ ·) card.facets[name]? card'.facets[name]?
  composites : List.Forall₂ (fun c c' => c.key = c'.key ∧ c.score ≤ c'.score)
    card.composites card'.composites
  uncappedTotal : Option.Rel (fun u u' => ¬ u' < u) card.uncappedTotal
    card'.uncappedTotal
  total : Option.Rel (fun t t' => ¬ t' < t) card.total card'.total
  medianCv : card.medianCv = card'.medianCv
  stabilityIndex : card.stabilityIndex = card'.stabilityIndex
  stabilityScore : card.stabilityScore = card'.stabilityScore
  stabilityMultiplier : card.stabilityMultiplier = card'.stabilityMultiplier
  instabilityFlags : card.instabilityFlags = card'.instabilityFlags
  missingRequiredCategories :
    card.missingRequiredCategories = card'.missingRequiredCategories
  unreferencedMetrics : card.unreferencedMetrics = card'.unreferencedMetrics

theorem Exact.PosRel.le {a b : Exact} (h : Exact.PosRel (· ≤ ·) a b) :
    a ≤ b := by
  obtain ⟨x, y, _, _, rfl, rfl, hxy⟩ := h
  exact hxy

theorem applyWeakLinkCap_notLowered
    {scores scores' : List Exact}
    (h : List.Forall₂ (Exact.PosRel (· ≤ ·)) scores scores')
    {total total' : Exact} (htotal : Exact.NotLowered total total')
    (factor : Exact) :
    Exact.NotLowered (applyWeakLinkCap total scores factor)
      (applyWeakLinkCap total' scores' factor) := by
  have hweakest := weakest_rel respectsMeans_le h
  rw [applyWeakLinkCap, applyWeakLinkCap]
  revert hweakest
  generalize weakest scores = low
  generalize weakest scores' = low'
  rintro (hlow | _)
  · dsimp only
    split
    · next hfactor =>
        refine htotal.min (Exact.NotLowered.mul hlow ?_)
        rintro r rfl
        rw [Exact.zero_eq, Exact.fin_lt_fin] at hfactor
        exact hfactor.le
    · exact htotal
  · exact htotal

theorem ImprovedRun.notLowered
    {model : ScoringModel Exact} (hanchors : model.HasPositiveAnchors)
    {span : ℝ} (hspan : model.stabilityPenaltySpan = .fin span)
    (hle : span ≤ 1) {modules modules' : List (ModuleResult Exact)}
    (h : ImprovedRun model modules modules') (profile : Profile) :
    (model.scoreRun profile modules).NotLowered
      (model.scoreRun profile modules') := by
  have hrel := (h.relatedRuns hanchors).scoreRun respectsMeans_le profile
  have huncapped : Option.Rel Exact.NotLowered
      (model.scoreRun profile modules).uncappedTotal
      (model.scoreRun profile modules').uncappedTotal := by
    have huncapped := hrel.uncappedTotal
    revert huncapped
    generalize (model.scoreRun profile modules).uncappedTotal = u
    generalize (model.scoreRun profile modules').uncappedTotal = u'
    rintro (⟨_, _, hmean, rfl, rfl⟩ | _)
    · exact Option.Rel.some (Exact.NotLowered.mul hmean fun _ hm =>
        stabilityMultiplier_nonneg profile modules hspan hle hm)
    · exact Option.Rel.none
  exact
    { categories := hrel.categories.imp fun _ _ hc => ⟨hc.key, hc.score.le⟩
      facets := by
        intro name
        have hfacet := hrel.facets name
        revert hfacet
        generalize (model.scoreRun profile modules).facets[name]? = score
        generalize (model.scoreRun profile modules').facets[name]? = score'
        rintro (hscore | _)
        · exact Option.Rel.some hscore.le
        · exact Option.Rel.none
      composites := hrel.composites.imp fun _ _ hc => ⟨hc.key, hc.score.le⟩
      uncappedTotal := by
        revert huncapped
        generalize (model.scoreRun profile modules).uncappedTotal = u
        generalize (model.scoreRun profile modules').uncappedTotal = u'
        rintro (hu | _)
        · exact Option.Rel.some hu.not_lt
        · exact Option.Rel.none
      total := by
        rw [model.total_scoreRun profile modules,
          model.total_scoreRun profile modules']
        revert huncapped
        generalize (model.scoreRun profile modules).uncappedTotal = u
        generalize (model.scoreRun profile modules').uncappedTotal = u'
        rintro (hu | _)
        · exact Option.Rel.some
            (applyWeakLinkCap_notLowered hrel.scores hu _).not_lt
        · exact Option.Rel.none
      medianCv := hrel.medianCv
      stabilityIndex := hrel.stabilityIndex
      stabilityScore := hrel.stabilityScore
      stabilityMultiplier := hrel.stabilityMultiplier
      instabilityFlags := Remeasured.instabilityFlags_eq h model profile
      missingRequiredCategories := hrel.missingRequiredCategories
      unreferencedMetrics := hrel.unreferencedMetrics }

/-- Improving metrics lowers no score, and raises the score of the category of
every improved metric of the scored cycle. -/
theorem scores_monotone
    {model : ScoringModel Exact} (hanchors : model.HasPositiveAnchors)
    {span : ℝ} (hspan : model.stabilityPenaltySpan = .fin span)
    (hle : span ≤ 1) (profile : Profile)
    {modules modules' : List (ModuleResult Exact)}
    (h : ImprovedRun model modules modules') :
    (model.scoreRun profile modules).NotLowered
        (model.scoreRun profile modules') ∧
      ∀ pair ∈ (readings (Sustained.scoringCycle modules) modules).zip
          (readings (Sustained.scoringCycle modules') modules'),
        pair.1.2.value ≠ pair.2.2.value → ∀ reference,
          model.reference.get pair.1.1 pair.1.2.key = some reference →
            ∃ c ∈ (model.scoreRun profile modules).categories,
            ∃ c' ∈ (model.scoreRun profile modules').categories,
              c.key = reference.category ∧ c'.key = reference.category ∧
                c.score < c'.score := by
  refine ⟨h.notLowered hanchors hspan hle profile, ?_⟩
  intro pair hpair hne reference hreference
  obtain ⟨c, c', hc, hc', hlt⟩ :=
    exists_outcomes_lt hanchors h hpair hreference hne
  rw [model.categories_scoreRun, model.categories_scoreRun]
  exact ⟨c, List.mem_filterMap.mpr ⟨_, CategoryKey.mem_all _, hc⟩,
    c', List.mem_filterMap.mpr ⟨_, CategoryKey.mem_all _, hc'⟩,
    key_eq_of_outcome?_eq_some hc, key_eq_of_outcome?_eq_some hc', hlt⟩

theorem improvedRun_hashRun
    {model : ScoringModel Exact}
    (hreference : model.reference.get cpuMixed.asStr "crypto_sha256.single" =
      some (point 1900.0 1.0 .compute (some .singleCore)))
    {x y : ℝ} (hx : 0 < x) (hxy : x < y) (cv : Option Exact) :
    ImprovedRun model (hashRun x cv) (hashRun y cv) :=
  List.Forall₂.cons
    ⟨_, rfl, List.Forall₂.cons
      (.better _ hreference x y hx (hx.trans hxy) rfl rfl hxy)
      List.Forall₂.nil⟩
    List.Forall₂.nil

/-- A doubled hash rate raises the compute score. -/
theorem scores_monotone_hashRun :
    (ScoringModel.current.scoreRun .standard (hashRun 1900 none)).NotLowered
        (ScoringModel.current.scoreRun .standard (hashRun 3800 none)) ∧
      ∃ c ∈ (ScoringModel.current.scoreRun .standard
          (hashRun 1900 none)).categories,
      ∃ c' ∈ (ScoringModel.current.scoreRun .standard
          (hashRun 3800 none)).categories,
        c.key = .compute ∧ c'.key = .compute ∧ c.score < c'.score := by
  have hspan : (0.10 : Exact) = .fin (1 / 10) := by
    rw [Exact.ofScientific_eq]
    norm_num
  have h := scores_monotone hasPositiveAnchors_current hspan (by norm_num)
    .standard (improvedRun_hashRun get_current_cpuMixed
      (by norm_num : (0 : ℝ) < 1900) (by norm_num : (1900 : ℝ) < 3800) none)
  refine ⟨h.1, h.2
    ((cpuMixed.asStr, bareMetric "crypto_sha256.single" (.fin 1900) none),
      (cpuMixed.asStr, bareMetric "crypto_sha256.single" (.fin 3800) none))
    ?_ ?_ _ get_current_cpuMixed⟩
  · rw [hashRun, hashRun, readings_oneMetricRun, readings_oneMetricRun]
    exact List.mem_singleton.mpr rfl
  · intro heq
    exact absurd (Exact.fin.inj heq) (by norm_num)

/-! ## A penalty span above one -/

attribute [local instance] atLeastTwo_two in
/-- The current model with a penalty of twice the total. -/
noncomputable def overpenalised : ScoringModel Exact :=
  { ScoringModel.current with stabilityPenaltySpan := .fin 2 }

theorem stabilityMultiplier_overpenalised (value : ℝ) :
    (overpenalised.scoreRun .standard
      (hashRun value (some (.fin 1)))).stabilityMultiplier = .fin (-1) := by
  have hcvs : overpenalised.referencedCvs (hashRun value (some (.fin 1))) =
      [.fin 1] :=
    referencedCvs_hashRun value (some (.fin 1))
  have hmedian : median [Exact.fin 1] = some (.fin 1) := by
    simp [median, F64.sortPartial, F64.medianOfSorted]
  have hceiling : overpenalised.cvCeiling = .fin (1 / 5) := by
    change (0.20 : Exact) = _
    rw [Exact.ofScientific_eq]
    norm_num
  have hindex : stabilityIndexOf (Exact.fin (1 / 5)) (some (.fin 1)) =
      .fin 0 := by
    rw [stabilityIndexOf, Exact.fin_div_fin _ (by norm_num), Exact.one_eq,
      Exact.zero_eq, Exact.fin_sub_fin, F64.clamp,
      if_pos ((Exact.fin_lt_fin _ _).mpr (by norm_num))]
  have hspan : overpenalised.stabilityPenaltySpan = .fin 2 := rfl
  rw [ScoringModel.stabilityMultiplier_scoreRun,
    ScoringModel.stabilityIndex_scoreRun, hcvs, hmedian, hceiling, hindex,
    hspan, Exact.one_eq, Exact.fin_sub_fin, Exact.fin_mul_fin,
    Exact.fin_add_fin]
  norm_num

theorem uncappedTotal_overpenalised {k : ℝ} (hk : 0 < k) :
    (overpenalised.scoreRun .standard
      (hashRun (1900 * k) (some (.fin 1)))).uncappedTotal =
        some (.fin (1000 * k * -1)) := by
  have hratio : HasRatio overpenalised k
      (hashRun (1900 * k) (some (.fin 1))) :=
    hasRatio_hashRun hk (some (.fin 1))
  have hne : overpenalised.contributions
      (hashRun (1900 * k) (some (.fin 1))) ≠ [] := by
    have hcontributions := contributions_hashRun
      (mul_pos (by norm_num : (0 : ℝ) < 1900) hk) (some (.fin 1))
    exact fun h => List.cons_ne_nil _ _ (hcontributions.symm.trans h)
  rw [hratio.uncappedTotal_eq hasPositiveAnchors_current hne,
    stabilityMultiplier_overpenalised, Exact.fin_mul_fin]

/-- With a span above one the multiplier can be negative, and a better metric
then lowers the total. -/
theorem uncappedTotal_lowered :
    overpenalised.HasPositiveAnchors ∧
      ImprovedRun overpenalised (hashRun (1900 * 1) (some (.fin 1)))
        (hashRun (1900 * 2) (some (.fin 1))) ∧
      ∃ u u',
        (overpenalised.scoreRun .standard
          (hashRun (1900 * 1) (some (.fin 1)))).uncappedTotal = some u ∧
        (overpenalised.scoreRun .standard
          (hashRun (1900 * 2) (some (.fin 1)))).uncappedTotal = some u' ∧
        u' < u := by
  refine ⟨hasPositiveAnchors_current, ?_, _, _,
    uncappedTotal_overpenalised one_pos, uncappedTotal_overpenalised two_pos,
    ?_⟩
  · have hreference : overpenalised.reference.get cpuMixed.asStr
        "crypto_sha256.single" =
          some (point 1900.0 1.0 .compute (some .singleCore)) :=
      get_current_cpuMixed
    exact improvedRun_hashRun hreference (by norm_num : (0 : ℝ) < 1900 * 1)
      (by norm_num : (1900 * 1 : ℝ) < 1900 * 2) (some (.fin 1))
  · rw [Exact.fin_lt_fin]
    norm_num

end Darcbench
