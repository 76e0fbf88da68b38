import Darcbench.Scoring.Normalise
import Darcbench.Scoring.Remeasured

/-!
# Scores scale with performance

A machine with `k` times the ratios of another has `k` times its scores.  The
weights are renormalised over what is present at each of the three levels, so
this holds for every subset of metrics, modules and categories.
-/

namespace Darcbench

open Weighted (RespectsMeans respectsMeans_multiple)

/-! ## Multiples of exact numbers -/

namespace Exact

variable {k : ℝ} (hk : 0 < k)

include hk

theorem signedInf_mul (x : ℝ) : signedInf (k * x) = signedInf x := by
  have hpos : 0 < k * x ↔ 0 < x := mul_pos_iff_of_pos_left hk
  have hneg : k * x < 0 ↔ x < 0 := by
    have h : k * x < k * 0 ↔ x < 0 := mul_lt_mul_iff_right₀ hk
    rwa [mul_zero] at h
  rw [signedInf, signedInf]
  simp only [hpos, hneg]

theorem fin_mul_signedInf (x : ℝ) :
    fin k * signedInf x = signedInf x := by
  rw [signedInf]
  split
  · exact fin_mul_inf hk
  · split
    · exact fin_mul_negInf hk
    · rfl

/-- A positive factor can be taken out of a product. -/
theorem fin_mul_mul (x : ℝ) (m : Exact) :
    fin (k * x) * m = fin k * (fin x * m) := by
  cases m with
  | fin y => rw [fin_mul_fin, fin_mul_fin, fin_mul_fin, mul_assoc]
  | inf =>
      change signedInf (k * x) = fin k * signedInf x
      rw [signedInf_mul hk, fin_mul_signedInf hk]
  | negInf =>
      change signedInf (-(k * x)) = fin k * signedInf (-x)
      rw [fin_mul_signedInf hk, ← mul_neg, signedInf_mul hk]
  | nan => rfl

theorem fin_mul_lt_fin_mul_iff (a b : Exact) :
    fin k * a < fin k * b ↔ a < b := by
  have hinf := fin_mul_inf hk
  have hnegInf := fin_mul_negInf hk
  have hnan : fin k * nan = nan := rfl
  cases a <;> cases b <;>
    simp only [hinf, hnegInf, hnan, fin_mul_fin, fin_lt_fin,
      mul_lt_mul_iff_right₀ hk] <;>
    exact Iff.rfl

theorem isNan_fin_mul (a : Exact) :
    F64.isNan (fin k * a) = F64.isNan a := by
  cases a with
  | fin x => rw [fin_mul_fin, isNan_fin, isNan_fin]
  | inf => rw [fin_mul_inf hk]
  | negInf => rw [fin_mul_negInf hk]
  | nan => rfl

/-- A positive factor can be taken out of a minimum. -/
theorem min_fin_mul (a b : Exact) :
    F64.min (fin k * a) (fin k * b) = fin k * F64.min a b := by
  rw [F64.min, F64.min, isNan_fin_mul hk]
  simp only [fin_mul_lt_fin_mul_iff hk]
  split
  · rfl
  · split <;> rfl

end Exact

/-! ## Scaled runs -/

/-- The raw value whose ratio to its anchor is multiplied by `k`. -/
noncomputable def scaleValue (k : Exact) (direction : Direction)
    (value : Exact) : Exact :=
  match direction with
  | .higherIsBetter => value * k
  | .lowerIsBetter => value / k

/-- Two measurements of one metric with the same variation.  If it is scored,
the second has `k` times its ratio, and otherwise the same value. -/
inductive ScaledMetric (model : ScoringModel Exact) (k : ℝ)
    (moduleId : String) (metric metric' : Metric Exact) : Prop where
  | scored (hkey : metric'.key = metric.key)
      (hcv : metric'.summary.cv = metric.summary.cv)
      (reference : ReferencePoint Exact)
      (hreference : model.reference.get moduleId metric.key = some reference)
      (hratio : (normalise metric.value reference.value
        reference.direction).isSome = true)
      (hvalue : metric'.value =
        scaleValue (.fin k) reference.direction metric.value)
  | unscored (hkey : metric'.key = metric.key)
      (hcv : metric'.summary.cv = metric.summary.cv)
      (hunscored : model.contribution? (moduleId, metric) = none)
      (hvalue : metric'.value = metric.value)

/-- A run with `k` times the ratio of every scored metric of another.  The
metrics of results that are not scored may differ in any way. -/
def ScaledRun (model : ScoringModel Exact) (k : ℝ)
    (modules modules' : List (ModuleResult Exact)) : Prop :=
  Remeasured
    (fun module metric metric' =>
      module ∈ Sustained.inCycle (Sustained.scoringCycle modules) modules →
        ScaledMetric model k module.module.id.asStr metric metric')
    modules modules'

theorem normalise_scaleValue
    {k : ℝ} (hk : 0 < k) {value reference : Exact} {direction : Direction}
    {ratio : Exact} (h : normalise value reference direction = some ratio) :
    ∃ x y, 0 < x ∧ 0 < y ∧ ratio = .fin x ∧ y = k * x ∧
      normalise (scaleValue (.fin k) direction value) reference direction =
        some (.fin y) := by
  obtain ⟨x, y, hx, hy, rfl, rfl, rfl⟩ := normalise_eq_some_iff.mp h
  have hratio := direction.ratio_pos hx hy
  refine ⟨_, k * direction.ratio x y, hratio, mul_pos hk hratio, rfl, rfl, ?_⟩
  cases direction with
  | higherIsBetter =>
      rw [scaleValue, Exact.fin_mul_fin, normalise_fin _ (mul_pos hx hk) hy,
        Direction.ratio, Direction.ratio]
      congr 2
      ring
  | lowerIsBetter =>
      rw [scaleValue, Exact.fin_div_fin _ hk.ne',
        normalise_fin _ (div_pos hx hk) hy, Direction.ratio, Direction.ratio]
      congr 2
      field_simp

theorem ScaledMetric.metricRel
    {model : ScoringModel Exact} {k : ℝ} (hk : 0 < k) {moduleId : String}
    {metric metric' : Metric Exact}
    (h : ScaledMetric model k moduleId metric metric') :
    MetricRel model (fun x y => y = k * x) moduleId metric metric' := by
  cases h with
  | scored hkey hcv reference hreference hratio hvalue =>
      obtain ⟨ratio, hratio⟩ := Option.isSome_iff_exists.mp hratio
      obtain ⟨x, y, hx, hy, rfl, hxy, hratio'⟩ :=
        normalise_scaleValue hk hratio
      refine ⟨hkey.symm, hcv.symm, ?_⟩
      simp only [ScoringModel.contribution?, hkey, hvalue, hreference, hratio,
        hratio', Option.bind_eq_bind, Option.bind_some]
      exact Option.Rel.some
        { moduleId := rfl
          category := rfl
          facet := rfl
          ratio := ⟨x, y, hx, hy, rfl, rfl, hxy⟩
          weight := rfl }
  | unscored hkey hcv hunscored hvalue =>
      have hunscored' : model.contribution? (moduleId, metric') = none := by
        rw [← hunscored, ScoringModel.contribution?,
          ScoringModel.contribution?, hkey, hvalue]
      refine ⟨hkey.symm, hcv.symm, ?_⟩
      rw [hunscored, hunscored']
      exact Option.Rel.none

theorem ScaledRun.relatedRuns
    {model : ScoringModel Exact} {k : ℝ} (hk : 0 < k)
    {modules modules' : List (ModuleResult Exact)}
    (h : ScaledRun model k modules modules') :
    model.RelatedRuns (fun x y => y = k * x) modules modules' :=
  Remeasured.relatedRuns h fun _ hmodule _ _ hab =>
    (hab hmodule).metricRel hk

/-! ## Scaled cards -/

theorem Exact.PosRel.eq_mul
    {k : ℝ} {a b : Exact} (h : Exact.PosRel (fun x y => y = k * x) a b) :
    b = .fin k * a := by
  obtain ⟨x, y, _, _, rfl, rfl, rfl⟩ := h
  rfl

/-- A card with `k` times the scores of another. -/
structure ScoreCard.IsMultiple (k : ℝ) (card' card : ScoreCard Exact) :
    Prop where
  categories : card'.categories =
    card.categories.map fun c => { c with score := .fin k * c.score }
  facets : ∀ name : String,
    card'.facets[name]? = (card.facets[name]?).map (.fin k * ·)
  composites : card'.composites =
    card.composites.map fun c => { c with score := .fin k * c.score }
  uncappedTotal : card'.uncappedTotal = card.uncappedTotal.map (.fin k * ·)
  total : card'.total = card.total.map (.fin k * ·)
  balanceIndex : card'.balanceIndex = card.balanceIndex
  stabilityIndex : card'.stabilityIndex = card.stabilityIndex

theorem applyWeakLinkCap_mul
    {k : ℝ} (hk : 0 < k) {scores scores' : List Exact}
    (h : List.Forall₂ (Exact.PosRel fun x y => y = k * x) scores scores')
    (total factor : Exact) :
    applyWeakLinkCap (.fin k * total) scores' factor =
      .fin k * applyWeakLinkCap total scores factor := by
  have hweakest := weakest_rel (respectsMeans_multiple hk) h
  rw [applyWeakLinkCap, applyWeakLinkCap]
  revert hweakest
  generalize weakest scores = low
  generalize weakest scores' = low'
  rintro (⟨x, y, _, _, rfl, rfl, rfl⟩ | _)
  · dsimp only
    rw [Exact.fin_mul_mul hk]
    split
    · exact Exact.min_fin_mul hk _ _
    · rfl
  · rfl

theorem balanceIndex_eq_of_rel
    {model : ScoringModel Exact} {k : ℝ} (hk : 0 < k) {profile : Profile}
    {modules modules' : List (ModuleResult Exact)}
    (h : (model.scoreRun profile modules).Rel (fun x y => y = k * x)
      (model.scoreRun profile modules')) :
    (model.scoreRun profile modules').balanceIndex =
      (model.scoreRun profile modules).balanceIndex := by
  obtain ⟨items, hitems⟩ := exists_hasScores_scoreRun model profile modules
  obtain ⟨items', hitems', hrel⟩ := h.exists_hasScores hitems
  by_cases hne : items = []
  · subst hne
    obtain rfl := List.forall₂_nil_left_iff.mp hrel
    rw [model.balanceIndex_scoreRun, model.balanceIndex_scoreRun,
      hitems.map_score, hitems'.map_score]
  · have hne' : items' ≠ [] := by
      rintro rfl
      exact hne (List.forall₂_nil_right_iff.mp hrel)
    obtain ⟨low, _, hlow⟩ := exists_isWeakest hne
    have hweakest := weakest_rel (respectsMeans_multiple hk) h.scores
    rw [hitems.map_score, hitems'.map_score, hlow] at hweakest
    obtain ⟨low', hlow', hmultiple⟩ : ∃ low' : ℝ,
        weakest ((items'.map (·.value)).map Exact.fin) =
          some (.fin low') ∧ low' = k * low := by
      revert hweakest
      generalize weakest ((items'.map (·.value)).map Exact.fin) = w
      rintro (⟨x, y, _, _, hx, rfl, rfl⟩)
      exact ⟨_, rfl, by rw [Exact.fin.inj hx]⟩
    have hmean : Weighted.mean (items'.map Weighted.unit) =
        k * Weighted.mean (items.map Weighted.unit) := by
      refine Weighted.mean_of_isMultiple hk ?_ ?_
      · exact List.rel_map (fun {a b} hab => ⟨hab.1, rfl⟩) hrel
      · rwa [ne_eq, List.map_eq_nil_iff]
    rw [ScoringModel.balanceIndex_eq hitems hne hlow,
      ScoringModel.balanceIndex_eq hitems' hne' hlow', hmultiple, hmean,
      mul_div_mul_left _ _ hk.ne']

/-- A run with `k` times the ratios has `k` times the scores. -/
theorem ScaledRun.isMultiple
    {model : ScoringModel Exact} {k : ℝ} (hk : 0 < k)
    {modules modules' : List (ModuleResult Exact)}
    (h : ScaledRun model k modules modules') (profile : Profile) :
    (model.scoreRun profile modules').IsMultiple k
      (model.scoreRun profile modules) := by
  have hrel := (h.relatedRuns hk).scoreRun (respectsMeans_multiple hk) profile
  have huncapped : (model.scoreRun profile modules').uncappedTotal =
      (model.scoreRun profile modules).uncappedTotal.map (.fin k * ·) := by
    have huncapped := hrel.uncappedTotal
    revert huncapped
    generalize (model.scoreRun profile modules).uncappedTotal = u
    generalize (model.scoreRun profile modules').uncappedTotal = u'
    rintro (⟨_, _, ⟨x, y, _, _, rfl, rfl, rfl⟩, rfl, rfl⟩ | _)
    · rw [Option.map_some, Exact.fin_mul_mul hk]
    · rfl
  exact
    { categories := by
        refine map_eq_of_forall₂ (hrel.categories.imp ?_)
        rintro ⟨⟩ ⟨⟩ ⟨rfl, rfl, hscore, rfl, rfl, rfl⟩
        obtain rfl := hscore.eq_mul
        rfl
      facets := by
        intro name
        have hfacet := hrel.facets name
        revert hfacet
        generalize (model.scoreRun profile modules).facets[name]? = score
        generalize (model.scoreRun profile modules').facets[name]? = score'
        rintro (hscore | _)
        · rw [Option.map_some, hscore.eq_mul]
        · rfl
      composites := by
        refine map_eq_of_forall₂ (hrel.composites.imp ?_)
        rintro ⟨⟩ ⟨⟩ ⟨rfl, rfl, hscore, rfl⟩
        obtain rfl := hscore.eq_mul
        rfl
      uncappedTotal := huncapped
      total := by
        rw [model.total_scoreRun profile modules,
          model.total_scoreRun profile modules', huncapped, Option.map_map,
          Option.map_map]
        refine congrArg (Option.map · _) (funext fun t => ?_)
        exact applyWeakLinkCap_mul hk hrel.scores t model.weakLinkCapFactor
      balanceIndex := balanceIndex_eq_of_rel hk hrel
      stabilityIndex := hrel.stabilityIndex.symm }

/-! ## Runs of one ratio -/

/-- Every scored metric of the run has the ratio `k` to its anchor. -/
def HasRatio (model : ScoringModel Exact) (k : ℝ)
    (modules : List (ModuleResult Exact)) : Prop :=
  ∀ module ∈ Sustained.inCycle (Sustained.scoringCycle modules) modules,
    ∀ metric ∈ module.metrics, ∀ reference,
      model.reference.get module.module.id.asStr metric.key = some reference →
        ∀ ratio, normalise metric.value reference.value reference.direction =
          some ratio → ratio = .fin k

theorem HasRatio.ratio_eq
    {model : ScoringModel Exact} {k : ℝ} {modules : List (ModuleResult Exact)}
    (h : HasRatio model k modules) {contribution : Contribution Exact}
    (hcontribution : contribution ∈ model.contributions modules) :
    contribution.ratio = .fin k := by
  obtain ⟨⟨id, metric⟩, hreading, hsome⟩ := List.mem_filterMap.mp hcontribution
  obtain ⟨module, hmodule, hreading⟩ := List.mem_flatMap.mp hreading
  obtain ⟨metric', hmetric, hpair⟩ := List.mem_map.mp hreading
  obtain ⟨rfl, rfl⟩ := Prod.mk.inj hpair
  obtain ⟨hmodule, hcond⟩ := List.mem_filter.mp hmodule
  rw [Bool.and_eq_true, beq_iff_eq] at hcond
  obtain ⟨reference, hreference, hsome⟩ := Option.bind_eq_some_iff.mp hsome
  obtain ⟨ratio, hratio, hsome⟩ := Option.bind_eq_some_iff.mp hsome
  obtain rfl := Option.some.inj hsome
  exact h module (Sustained.mem_inCycle_iff.mpr ⟨hmodule, hcond⟩) metric'
    hmetric reference hreference ratio hratio

/-- The mean of equal ratios is this ratio, under any weights. -/
theorem weightedGeometricMean_eq_of_forall
    {pairs : List (Exact × Exact)} {k : ℝ} {gm : Exact}
    (hpairs : ∀ pair ∈ pairs, pair.1 = .fin k)
    (h : weightedGeometricMean pairs = some gm) :
    gm = .fin k := by
  obtain ⟨items, hne, rfl, rfl⟩ := weightedGeometricMean_eq_some_iff.mp h
  refine congrArg Exact.fin (Weighted.mean_eq_of_forall_eq hne ?_)
  intro item hitem
  exact Exact.fin.inj (hpairs item.pair (List.mem_map_of_mem hitem))

/-- A card on which every category, facet and composite has the same score. -/
structure ScoreCard.IsUniform (score : Exact) (card : ScoreCard Exact) :
    Prop where
  categories : ∀ c ∈ card.categories, c.score = score
  facets : ∀ (name : String) (value : Exact),
    card.facets[name]? = some value → value = score
  composites : ∀ c ∈ card.composites, c.score = score

theorem fin_mul_referenceAnchor (k : ℝ) :
    Exact.fin k * referenceAnchor = .fin (1000 * k) := by
  rw [referenceAnchor_eq, Exact.fin_mul_fin, mul_comm]

theorem score_eq_of_outcome?
    {contributions : List (Contribution Exact)} {k : ℝ}
    (hratio : ∀ c ∈ contributions, c.ratio = .fin k) {key : CategoryKey}
    {category : CategoryOutcome Exact}
    (h : outcome? contributions key = some category) :
    category.score = .fin (1000 * k) := by
  obtain ⟨gm, hgm, rfl⟩ := Option.map_eq_some_iff.mp h
  have hpairs : ∀ pair ∈ categoryPairs contributions key, pair.1 = .fin k := by
    intro pair hpair
    obtain ⟨c, hc, rfl⟩ := List.mem_map.mp hpair
    exact hratio c (List.mem_filter.mp hc).1
  dsimp only
  rw [weightedGeometricMean_eq_of_forall hpairs hgm, fin_mul_referenceAnchor]

theorem score_eq_of_facetScore?
    {contributions : List (Contribution Exact)} {k : ℝ}
    (hratio : ∀ c ∈ contributions, c.ratio = .fin k) {facet : Facet}
    {score : Exact} (h : facetScore? contributions facet = some score) :
    score = .fin (1000 * k) := by
  obtain ⟨gm, hgm, rfl⟩ := Option.map_eq_some_iff.mp h
  have hpairs : ∀ pair ∈ facetPairs contributions facet, pair.1 = .fin k := by
    intro pair hpair
    obtain ⟨c, hc, rfl⟩ := List.mem_map.mp hpair
    exact hratio c (List.mem_filter.mp hc).1
  rw [weightedGeometricMean_eq_of_forall hpairs hgm, fin_mul_referenceAnchor]

theorem score_eq_of_compositeOutcome
    {present : BTreeMap CategoryKey Exact} {k : ℝ}
    (hpresent : ∀ (key : CategoryKey) (score : Exact),
      present[key]? = some score → score = .fin (1000 * k))
    {key : CompositeKey} {composite : CompositeOutcome Exact}
    (h : compositeOutcome present key = some composite) :
    composite.score = .fin (1000 * k) := by
  rw [compositeOutcome] at h
  dsimp only at h
  split at h
  · exact absurd h (by simp)
  · obtain ⟨gm, hgm, rfl⟩ := Option.map_eq_some_iff.mp h
    refine (congrArg (· * referenceAnchor) ?_).trans
      (fin_mul_referenceAnchor k)
    refine weightedGeometricMean_eq_of_forall ?_ hgm
    intro pair hpair
    obtain ⟨⟨category, weight⟩, _, hpair⟩ := List.mem_filterMap.mp hpair
    obtain ⟨score, hscore, rfl⟩ := Option.map_eq_some_iff.mp hpair
    dsimp only
    rw [hpresent category score hscore, referenceAnchor_eq,
      Exact.fin_div_fin _ (by norm_num)]
    exact congrArg Exact.fin (mul_div_cancel_left₀ k (by norm_num))

/-- Equal ratios give equal scores, whatever subset of metrics is present. -/
theorem HasRatio.isUniform
    {model : ScoringModel Exact} {k : ℝ} {modules : List (ModuleResult Exact)}
    (h : HasRatio model k modules) (profile : Profile) :
    (model.scoreRun profile modules).IsUniform (.fin (1000 * k)) where
  categories c hc := by
    rw [model.categories_scoreRun] at hc
    obtain ⟨key, _, hkey⟩ := List.mem_filterMap.mp hc
    exact score_eq_of_outcome? (fun _ => h.ratio_eq) hkey
  facets name value hvalue := by
    rw [model.facets_scoreRun] at hvalue
    obtain ⟨facet, hfacet⟩ := exists_facetScore?_eq_some hvalue
    exact score_eq_of_facetScore? (fun _ => h.ratio_eq) hfacet
  composites c hc := by
    rw [model.composites_scoreRun] at hc
    obtain ⟨key, _, hkey⟩ := List.mem_filterMap.mp hc
    refine score_eq_of_compositeOutcome ?_ hkey
    intro category score hscore
    rw [getElem?_presentScores_outcomes] at hscore
    obtain ⟨outcome, houtcome, rfl⟩ := Option.map_eq_some_iff.mp hscore
    exact score_eq_of_outcome? (fun _ => h.ratio_eq) houtcome

/-- A machine with `k` times the ratios has `k` times the scores, and a machine
with the ratio `k` throughout has the score `1000 * k` throughout. -/
theorem scores_scale
    (model : ScoringModel Exact) (profile : Profile) {k : ℝ} (hk : 0 < k)
    (modules : List (ModuleResult Exact)) :
    (∀ modules', ScaledRun model k modules modules' →
      (model.scoreRun profile modules').IsMultiple k
        (model.scoreRun profile modules)) ∧
    (HasRatio model k modules →
      (model.scoreRun profile modules).IsUniform (.fin (1000 * k))) :=
  ⟨fun _ h => h.isMultiple hk profile, fun h => h.isUniform profile⟩

/-- The uncapped total of a run of one ratio. -/
theorem HasRatio.uncappedTotal_eq
    {model : ScoringModel Exact} {k : ℝ} {modules : List (ModuleResult Exact)}
    (h : HasRatio model k modules) (hanchors : model.HasPositiveAnchors)
    (hne : model.contributions modules ≠ []) (profile : Profile) :
    (model.scoreRun profile modules).uncappedTotal =
      some (.fin (1000 * k) *
        (model.scoreRun profile modules).stabilityMultiplier) := by
  obtain ⟨items, hitems⟩ := exists_hasScores_scoreRun model profile modules
  have hitemsNe : items ≠ [] := by
    rintro rfl
    obtain ⟨t, ht⟩ := ScoringModel.exists_total_eq_some hanchors hne
    rw [model.total_scoreRun, ScoringModel.uncappedTotal_eq_none hitems] at ht
    exact absurd ht (by simp)
  have hmean : Weighted.mean items = 1000 * k := by
    refine Weighted.mean_eq_of_forall_eq hitemsNe fun item hitem => ?_
    obtain ⟨category, hcategory, hscore⟩ := hitems.exists_category hitem
    have huniform := (h.isUniform profile).categories category hcategory
    exact Exact.fin.inj (hscore.symm.trans huniform)
  rw [ScoringModel.uncappedTotal_eq hitems hitemsNe, hmean]

theorem scaledRun_hashRun
    {k value : ℝ} (hvalue : 0 < value) (cv : Option Exact) :
    ScaledRun ScoringModel.current k (hashRun value cv)
      (hashRun (value * k) cv) := by
  refine List.Forall₂.cons ⟨_, rfl, List.Forall₂.cons ?_ List.Forall₂.nil⟩
    List.Forall₂.nil
  intro _
  refine ScaledMetric.scored rfl rfl _ get_current_cpuMixed ?_ rfl
  exact Option.isSome_iff_exists.mpr ⟨_, normalise_hashRun hvalue⟩

theorem hasRatio_hashRun {k : ℝ} (hk : 0 < k) (cv : Option Exact) :
    HasRatio ScoringModel.current k (hashRun (1900 * k) cv) := by
  intro module hmodule metric hmetric reference hreference ratio hratio
  obtain ⟨hmodule, _⟩ := Sustained.mem_inCycle_iff.mp hmodule
  obtain rfl := List.mem_singleton.mp hmodule
  obtain rfl := List.mem_singleton.mp hmetric
  obtain rfl : point 1900.0 1.0 .compute (some .singleCore) = reference :=
    Option.some.inj (get_current_cpuMixed.symm.trans hreference)
  have hvalue := normalise_hashRun (mul_pos (by norm_num : (0 : ℝ) < 1900) hk)
  rw [mul_div_cancel_left₀ k (by norm_num)] at hvalue
  exact (Option.some.inj (hvalue.symm.trans hratio)).symm

/-- Twice the hash rate of the reference machine is twice its score. -/
theorem scores_scale_hashRun :
    (ScoringModel.current.scoreRun .standard
      (hashRun (1900 * 2) none)).IsMultiple 2
        (ScoringModel.current.scoreRun .standard (hashRun 1900 none)) ∧
      (ScoringModel.current.scoreRun .standard
        (hashRun (1900 * 2) none)).IsUniform (.fin (1000 * 2)) :=
  ⟨(scores_scale .current .standard two_pos _).1 _
      (scaledRun_hashRun (by norm_num) none),
    (scores_scale .current .standard two_pos _).2
      (hasRatio_hashRun two_pos none)⟩

end Darcbench
