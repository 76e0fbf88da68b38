import Darcbench.Scoring.Anchors
import Darcbench.Scoring.Normalise
import Darcbench.Scoring.Outcomes
import Mathlib.Data.List.MinMax

/-!
# Totals in exact arithmetic

Over exact arithmetic every category score is a positive number.  The totals
and the balance index of a card are expressed by the list of these numbers
with their weights.
-/

namespace Darcbench

/-! ## Category scores -/

theorem referenceAnchor_eq : (referenceAnchor : Exact) = .fin 1000 := by
  rw [referenceAnchor, Exact.ofScientific_eq]
  norm_num

theorem exists_standardWeight_eq (key : CategoryKey) :
    ∃ w : ℝ, 0 < w ∧ (key.standardWeight : Exact) = .fin w := by
  cases key <;>
    exact ⟨_, by norm_num, Exact.ofScientific_eq _ _ _⟩

/-- The score of a category on the card is a positive number. -/
theorem exists_item_of_outcome?_eq_some
    {contributions : List (Contribution Exact)} {key : CategoryKey}
    {category : CategoryOutcome Exact}
    (h : outcome? contributions key = some category) :
    ∃ item : Weighted, (category.score, category.weight) = item.pair := by
  obtain ⟨gm, hgm, rfl⟩ := Option.map_eq_some_iff.mp h
  obtain ⟨items, _, _, rfl⟩ := weightedGeometricMean_eq_some_iff.mp hgm
  obtain ⟨w, hw, hweight⟩ := exists_standardWeight_eq key
  have hscore : 0 < Weighted.mean items * 1000 :=
    mul_pos (Weighted.mean_pos items) (by norm_num)
  refine ⟨⟨_, w, hscore, hw⟩, ?_⟩
  rw [Weighted.pair, hweight, referenceAnchor_eq, Exact.fin_mul_fin]

/-- Under positive anchors whatever contributes has a score. -/
theorem exists_item_of_mem_contributions
    {model : ScoringModel Exact} (hanchors : model.HasPositiveAnchors)
    {modules : List (ModuleResult Exact)} {contribution : Contribution Exact}
    (h : contribution ∈ model.contributions modules) :
    ∃ item : Weighted,
      (contribution.ratio, contribution.weight) = item.pair := by
  obtain ⟨reading, _, hsome⟩ := List.mem_filterMap.mp h
  obtain ⟨reference, hreference, hsome⟩ := Option.bind_eq_some_iff.mp hsome
  obtain ⟨ratio, hratio, hsome⟩ := Option.bind_eq_some_iff.mp hsome
  obtain rfl := Option.some.inj hsome
  obtain ⟨x, y, hx, hy, _, _, rfl⟩ := normalise_eq_some_iff.mp hratio
  obtain ⟨_, w, _, hw, _, hweight⟩ := hanchors _ _ _ hreference
  refine ⟨⟨_, w, reference.direction.ratio_pos hx hy, hw⟩, ?_⟩
  rw [Weighted.pair, hweight]

theorem exists_items_categoryPairs
    {model : ScoringModel Exact} (hanchors : model.HasPositiveAnchors)
    (modules : List (ModuleResult Exact)) (key : CategoryKey) :
    ∃ items : List Weighted,
      categoryPairs (model.contributions modules) key =
        items.map Weighted.pair := by
  have hrange : categoryPairs (model.contributions modules) key ∈
      Set.range (List.map Weighted.pair) := by
    rw [Set.range_list_map]
    intro pair hpair
    obtain ⟨c, hc, rfl⟩ := List.mem_map.mp hpair
    obtain ⟨item, hitem⟩ :=
      exists_item_of_mem_contributions hanchors (List.mem_filter.mp hc).1
    exact ⟨item, hitem.symm⟩
  obtain ⟨items, hitems⟩ := hrange
  exact ⟨items, hitems.symm⟩

/-- A category to which a metric contributed is on the card. -/
theorem exists_outcome?_eq_some
    {model : ScoringModel Exact} (hanchors : model.HasPositiveAnchors)
    {modules : List (ModuleResult Exact)} {contribution : Contribution Exact}
    (h : contribution ∈ model.contributions modules) :
    ∃ category, outcome? (model.contributions modules)
      contribution.category = some category := by
  obtain ⟨items, hitems⟩ :=
    exists_items_categoryPairs hanchors modules contribution.category
  have hne : items ≠ [] := by
    rintro rfl
    have hmem : (contribution.ratio, contribution.weight) ∈
        categoryPairs (model.contributions modules) contribution.category :=
      List.mem_map.mpr ⟨contribution,
        List.mem_filter.mpr ⟨h, decide_eq_true rfl⟩, rfl⟩
    rw [hitems] at hmem
    exact absurd hmem List.not_mem_nil
  rw [outcome?, hitems, weightedGeometricMean_map_pair hne]
  exact ⟨_, rfl⟩

/-- The category scores of a card, as positive numbers with their weights. -/
def ScoreCard.HasScores (card : ScoreCard Exact) (items : List Weighted) :
    Prop :=
  card.categories.map (fun c => (c.score, c.weight)) =
    items.map Weighted.pair

theorem exists_hasScores_scoreRun
    (model : ScoringModel Exact) (profile : Profile)
    (modules : List (ModuleResult Exact)) :
    ∃ items, (model.scoreRun profile modules).HasScores items := by
  have hrange : (model.scoreRun profile modules).categories.map
      (fun c => (c.score, c.weight)) ∈ Set.range (List.map Weighted.pair) := by
    rw [Set.range_list_map]
    intro pair hpair
    obtain ⟨category, hcategory, rfl⟩ := List.mem_map.mp hpair
    rw [ScoringModel.categories_scoreRun] at hcategory
    obtain ⟨key, _, hkey⟩ := List.mem_filterMap.mp hcategory
    obtain ⟨item, hitem⟩ := exists_item_of_outcome?_eq_some hkey
    exact ⟨item, hitem.symm⟩
  obtain ⟨items, hitems⟩ := hrange
  exact ⟨items, hitems.symm⟩

namespace ScoreCard

variable {card : ScoreCard Exact} {items : List Weighted}

theorem HasScores.map_score (h : card.HasScores items) :
    card.categories.map (·.score) =
      (items.map (·.value)).map Exact.fin := by
  have hfst := congrArg (List.map Prod.fst) h
  rw [List.map_map, List.map_map] at hfst
  rw [List.map_map]
  exact hfst

theorem HasScores.categories_eq_nil_iff (h : card.HasScores items) :
    card.categories = [] ↔ items = [] := by
  rw [← List.map_eq_nil_iff (f := fun c : CategoryOutcome Exact =>
    (c.score, c.weight)), ← List.map_eq_nil_iff (f := Weighted.pair), h]

/-- Every category score is one of the numbers. -/
theorem HasScores.exists_item
    (h : card.HasScores items) {category : CategoryOutcome Exact}
    (hcategory : category ∈ card.categories) :
    ∃ item ∈ items, category.score = .fin item.value := by
  have hmem : (category.score, category.weight) ∈ items.map Weighted.pair :=
    h ▸ List.mem_map.mpr ⟨category, hcategory, rfl⟩
  obtain ⟨item, hitem, hpair⟩ := List.mem_map.mp hmem
  exact ⟨item, hitem, (congrArg Prod.fst hpair).symm⟩

/-- Every one of the numbers is a category score. -/
theorem HasScores.exists_category
    (h : card.HasScores items) {item : Weighted} (hitem : item ∈ items) :
    ∃ category ∈ card.categories, category.score = .fin item.value := by
  have hmem : item.pair ∈
      card.categories.map (fun c => (c.score, c.weight)) :=
    h.symm ▸ List.mem_map.mpr ⟨item, hitem, rfl⟩
  obtain ⟨category, hcategory, hpair⟩ := List.mem_map.mp hmem
  exact ⟨category, hcategory, congrArg Prod.fst hpair⟩

end ScoreCard

/-! ## The weakest category -/

theorem foldl_min_map_fin
    {step : Option Exact → Exact → Option Exact}
    (hstep : ∀ x y : ℝ, step (some (.fin x)) (.fin y) = some (.fin (min x y)))
    (acc : ℝ) (values : List ℝ) :
    (values.map Exact.fin).foldl step (some (.fin acc)) =
      some (.fin (values.foldl min acc)) := by
  induction values generalizing acc with
  | nil => rfl
  | cons x rest ih =>
      rw [List.map_cons, List.foldl_cons, List.foldl_cons, hstep, ih]

/-- The weakest of some numbers is their minimum. -/
theorem weakest_map_fin (values : List ℝ) :
    weakest (values.map Exact.fin) = values.min?.map Exact.fin := by
  have hfilter : (values.map Exact.fin).filter F64.isFinite =
      values.map Exact.fin := by
    rw [List.filter_eq_self]
    intro a ha
    obtain ⟨x, _, rfl⟩ := List.mem_map.mp ha
    exact Exact.isFinite_fin x
  rw [weakest, hfilter]
  cases values with
  | nil => rfl
  | cons x rest =>
      rw [List.map_cons, List.foldl_cons, List.min?_cons', Option.map_some]
      exact foldl_min_map_fin
        (fun x y => congrArg some (Exact.min_fin x y)) x rest

/-- The number that `weakest` finds. -/
structure IsWeakest (items : List Weighted) (low : ℝ) : Prop where
  mem : ∃ item ∈ items, item.value = low
  le : ∀ item ∈ items, low ≤ item.value

theorem IsWeakest.pos {items : List Weighted} {low : ℝ}
    (h : IsWeakest items low) :
    0 < low := by
  obtain ⟨item, _, rfl⟩ := h.mem
  exact item.value_pos

theorem exists_isWeakest {items : List Weighted} (hne : items ≠ []) :
    ∃ low, IsWeakest items low ∧
      weakest ((items.map (·.value)).map Exact.fin) = some (.fin low) := by
  have hmap : items.map (·.value) ≠ [] := by
    rwa [ne_eq, List.map_eq_nil_iff]
  obtain ⟨low, hlow⟩ := List.isSome_min?_of_ne_nil hmap |>
    Option.isSome_iff_exists.mp
  have hmin := List.min?_eq_some_iff.mp hlow
  refine ⟨low, ⟨?_, ?_⟩, ?_⟩
  · obtain ⟨item, hitem, hvalue⟩ := List.mem_map.mp hmin.1
    exact ⟨item, hitem, hvalue⟩
  · intro item hitem
    exact hmin.2 _ (List.mem_map.mpr ⟨item, hitem, rfl⟩)
  · rw [weakest_map_fin, hlow]
    rfl

/-! ## Totals -/

/-- The mean over the categories, before the multiplier is applied. -/
theorem weightedGeometricMean_scores
    {card : ScoreCard Exact} {items : List Weighted}
    (h : card.HasScores items) (hne : items ≠ []) :
    weightedGeometricMean
        (card.categories.map fun c => (c.score / referenceAnchor, c.weight)) =
      some (.fin (1000⁻¹ * Weighted.mean items)) := by
  have hk : (0 : ℝ) < 1000⁻¹ := by norm_num
  have hpairs :
      card.categories.map (fun c => (c.score / referenceAnchor, c.weight)) =
        (items.map (Weighted.scale 1000⁻¹ hk)).map Weighted.pair := by
    have hdiv := congrArg
      (List.map fun p : Exact × Exact => (p.1 / referenceAnchor, p.2)) h
    rw [List.map_map, List.map_map] at hdiv
    rw [List.map_map]
    refine hdiv.trans (List.map_congr_left fun item _ => ?_)
    have hvalue : item.value / 1000 = 1000⁻¹ * item.value :=
      div_eq_inv_mul _ _
    simp only [Function.comp, Weighted.pair, Weighted.scale]
    rw [referenceAnchor_eq, Exact.fin_div_fin _ (by norm_num), hvalue]
  have hmap : items.map (Weighted.scale 1000⁻¹ hk) ≠ [] := by
    rwa [ne_eq, List.map_eq_nil_iff]
  rw [hpairs, weightedGeometricMean_map_pair hmap,
    Weighted.mean_map_scale hk hne]

namespace ScoringModel

variable {model : ScoringModel Exact} {profile : Profile}
  {modules : List (ModuleResult Exact)} {items : List Weighted}

/-- Without the cap the total is the mean of the category scores, times the
stability multiplier. -/
theorem uncappedTotal_eq
    (h : (model.scoreRun profile modules).HasScores items)
    (hne : items ≠ []) :
    (model.scoreRun profile modules).uncappedTotal =
      some (.fin (Weighted.mean items) *
        (model.scoreRun profile modules).stabilityMultiplier) := by
  have hvalue : (1000 : ℝ)⁻¹ * Weighted.mean items * 1000 =
      Weighted.mean items := by
    ring
  rw [uncappedTotal_scoreRun, weightedGeometricMean_scores h hne,
    Option.map_some, referenceAnchor_eq, Exact.fin_mul_fin, hvalue]

theorem uncappedTotal_eq_none
    (h : (model.scoreRun profile modules).HasScores []) :
    (model.scoreRun profile modules).uncappedTotal = none := by
  rw [uncappedTotal_scoreRun, h.categories_eq_nil_iff.mpr rfl]
  rfl

/-- The balance index compares the weakest category with the plain mean. -/
theorem balanceIndex_eq
    (h : (model.scoreRun profile modules).HasScores items)
    {low : ℝ} (hne : items ≠ [])
    (hlow : weakest ((items.map (·.value)).map Exact.fin) =
      some (.fin low)) :
    (model.scoreRun profile modules).balanceIndex =
      some (.fin (low / Weighted.mean (items.map Weighted.unit))) := by
  have hpos := Weighted.mean_pos (items.map Weighted.unit)
  have hgm : geometricMean ((items.map (·.value)).map Exact.fin) =
      some (.fin (Weighted.mean (items.map Weighted.unit))) := by
    rw [List.map_map]
    exact geometricMean_map_fin hne
  rw [balanceIndex_scoreRun, h.map_score, balanceIndexOf, hlow, hgm]
  simp only [Option.bind_eq_bind, Option.bind_some]
  rw [Exact.zero_eq, if_pos ((Exact.fin_lt_fin _ _).mpr hpos),
    Exact.fin_div_fin _ hpos.ne']

/-- Under positive anchors a run with a usable metric has a total. -/
theorem exists_total_eq_some
    (hanchors : model.HasPositiveAnchors)
    (hne : model.contributions modules ≠ []) :
    ∃ t, (model.scoreRun profile modules).total = some t := by
  obtain ⟨contribution, hcontribution⟩ := List.exists_mem_of_ne_nil _ hne
  obtain ⟨category, hcategory⟩ :=
    exists_outcome?_eq_some hanchors hcontribution
  obtain ⟨items, hitems⟩ := exists_hasScores_scoreRun model profile modules
  have hitemsNe : items ≠ [] := by
    rintro rfl
    have hnil := hitems.categories_eq_nil_iff.mpr rfl
    rw [categories_scoreRun] at hnil
    have hmem : category ∈ outcomes (model.contributions modules) :=
      List.mem_filterMap.mpr ⟨_, CategoryKey.mem_all _, hcategory⟩
    rw [hnil] at hmem
    exact absurd hmem List.not_mem_nil
  rw [total_scoreRun, uncappedTotal_eq hitems hitemsNe]
  exact ⟨_, rfl⟩

end ScoringModel

/-! ## A run of one metric -/

/-- A run of the current model that measured a single hash rate. -/
noncomputable def hashRun (value : ℝ) (cv : Option Exact) :
    List (ModuleResult Exact) :=
  oneMetricRun cpuMixed (bareMetric "crypto_sha256.single" (.fin value) cv)

theorem normalise_hashRun {value : ℝ} (h : 0 < value) :
    normalise (Exact.fin value) 1900.0 .higherIsBetter =
      some (.fin (value / 1900)) := by
  have hanchor : (1900.0 : Exact) = .fin 1900 := by
    rw [Exact.ofScientific_eq]
    norm_num
  rw [hanchor, normalise_fin _ h (by norm_num), Direction.ratio]

theorem contributions_hashRun
    {value : ℝ} (h : 0 < value) (cv : Option Exact) :
    ScoringModel.current.contributions (hashRun value cv) =
      [{ moduleId := cpuMixed.asStr
         category := .compute
         facet := some .singleCore
         ratio := .fin (value / 1900)
         weight := 1.0 }] := by
  have hcontribution : ScoringModel.current.contribution? (cpuMixed.asStr,
      bareMetric "crypto_sha256.single" (Exact.fin value) cv) =
        some
          { moduleId := cpuMixed.asStr
            category := .compute
            facet := some .singleCore
            ratio := .fin (value / 1900)
            weight := 1.0 } := by
    simp only [ScoringModel.contribution?, bareMetric, get_current_cpuMixed,
      Option.bind_eq_bind, Option.bind_some, point, normalise_hashRun h]
  rw [hashRun, ScoringModel.contributions_oneMetricRun, hcontribution]
  rfl

theorem referencedCvs_hashRun (value : ℝ) (cv : Option Exact) :
    ScoringModel.current.referencedCvs (hashRun value cv) = cv.toList := by
  have hcv : ScoringModel.current.cv? (cpuMixed.asStr,
      bareMetric "crypto_sha256.single" (Exact.fin value) cv) = cv := by
    simp only [ScoringModel.cv?, bareMetric, get_current_cpuMixed,
      Option.bind_eq_bind, Option.bind_some]
  rw [ScoringModel.referencedCvs, hashRun, readings_oneMetricRun]
  cases cv <;> simp [hcv]

end Darcbench
