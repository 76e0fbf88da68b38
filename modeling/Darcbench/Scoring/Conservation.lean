import Darcbench.Scoring.Anchors
import Darcbench.Scoring.ExactMeans
import Darcbench.Scoring.Outcomes

/-!
# Where every measured metric ends up

A metric of the scored cycle is counted by the category that it was normalised
into, or it is reported as unreferenced.  A category drops out of the card, with
all its metrics, exactly if the weights that it collected do not add up to a
usable total; machine arithmetic can overflow there.
-/

namespace Darcbench

variable {F : Type} [F64 F]

/-- Every metric with an anchor has a positive finite one, with a positive
finite weight. -/
def ScoringModel.HasPositivePoints (model : ScoringModel F) : Prop :=
  ∀ moduleId key reference,
    model.reference.get moduleId key = some reference →
      F64.IsPositive reference.value ∧ F64.IsPositive reference.weight

/-- The weights that a category collected add up to a positive number. -/
def HasUsableWeight (contributions : List (Contribution F))
    (key : CategoryKey) : Prop :=
  let total := F64.sum ((categoryPairs contributions key).map Prod.snd)
  F64.isFinite total = true ∧ ¬ total ≤ 0.0

/-- Some metric of the result was normalised into the category. -/
def ScoringModel.NormalisedInto (model : ScoringModel F)
    (module : ModuleResult F) (key : CategoryKey) : Prop :=
  ∃ metric ∈ module.metrics, ∃ reference,
    model.reference.get module.module.id.asStr metric.key = some reference ∧
      reference.category = key ∧
      (normalise metric.value reference.value reference.direction).isSome

/-! ## Usable means -/

theorem isPositive_of_normalise
    {value reference : F} {direction : Direction} {ratio : F}
    (h : normalise value reference direction = some ratio) :
    F64.IsPositive ratio := by
  unfold normalise at h
  split at h
  · exact absurd h (by simp)
  · cases direction with
    | higherIsBetter =>
        dsimp only at h
        split at h
        · next hratio => exact Option.some.inj h ▸ hratio
        · exact absurd h (by simp)
    | lowerIsBetter =>
        dsimp only at h
        split at h
        · exact absurd h (by simp)
        · split at h
          · next hratio => exact Option.some.inj h ▸ hratio
          · exact absurd h (by simp)

theorem isSome_weightedLogSum [F64.ComparesZero F]
    {pairs : List (F × F)}
    (h : ∀ pair ∈ pairs, F64.IsPositive pair.1 ∧ F64.IsPositive pair.2)
    (acc : F) :
    (weightedLogSum acc pairs).isSome = true := by
  induction pairs generalizing acc with
  | nil => rfl
  | cons pair rest ih =>
      obtain ⟨⟨hvalue, hweight⟩, hrest⟩ := List.forall_mem_cons.mp h
      have hvalue' := F64.ComparesZero.not_le_zero _ hvalue.2
      have hweight' := F64.ComparesZero.not_le_zero _ hweight.2
      rw [weightedLogSum, if_neg (by simp [hvalue.1, hweight.1, hvalue',
        hweight'])]
      exact ih hrest _

/-- Positive pairs have a mean exactly if their total weight is usable. -/
theorem isSome_weightedGeometricMean_iff [F64.ComparesZero F]
    {pairs : List (F × F)} (hne : pairs ≠ [])
    (h : ∀ pair ∈ pairs, F64.IsPositive pair.1 ∧ F64.IsPositive pair.2) :
    (weightedGeometricMean pairs).isSome = true ↔
      F64.isFinite (F64.sum (pairs.map Prod.snd)) = true ∧
        ¬ F64.sum (pairs.map Prod.snd) ≤ 0.0 := by
  have hempty : ¬ pairs.isEmpty = true := fun hnil =>
    hne (List.isEmpty_iff.mp hnil)
  rw [weightedGeometricMean, if_neg hempty]
  dsimp only
  split
  · next hguard =>
      simp only [Bool.or_eq_true, Bool.not_eq_true', decide_eq_true_eq]
        at hguard
      constructor
      · intro hsome
        exact absurd hsome (by simp)
      · rintro ⟨hfinite, hle⟩
        rcases hguard with hguard | hguard
        · exact absurd hfinite (by simp [hguard])
        · exact absurd hguard hle
  · next hguard =>
      simp only [Bool.or_eq_true, Bool.not_eq_true', decide_eq_true_eq,
        not_or, Bool.not_eq_false] at hguard
      rw [Option.isSome_map]
      exact iff_of_true (isSome_weightedLogSum h _) hguard

/-! ## Counting contributions -/

omit [F64 F] in
/-- Every contribution is in exactly one category. -/
theorem sum_length_categoryPairs (contributions : List (Contribution F)) :
    (CategoryKey.all.map fun key =>
      (categoryPairs contributions key).length).sum = contributions.length := by
  induction contributions with
  | nil => rfl
  | cons c rest ih =>
      have hcons : ∀ key, (categoryPairs (c :: rest) key).length =
          (if c.category = key then 1 else 0) +
            (categoryPairs rest key).length := by
        intro key
        simp only [categoryPairs, List.length_map, List.filter_cons,
          decide_eq_true_eq]
        split <;> simp [Nat.add_comm]
      have hone : (CategoryKey.all.map fun key =>
          if c.category = key then 1 else 0).sum = 1 := by
        cases c.category <;> rfl
      simp only [hcons, List.sum_map_add, ih, hone, List.length_cons]
      exact Nat.add_comm _ _

/-- The number of metrics that a category reports, if it is on the card. -/
def reportedCount (contributions : List (Contribution F))
    (key : CategoryKey) : ℕ :=
  ((outcome? contributions key).map (·.metricCount)).getD 0

theorem sum_metricCount_outcomes (contributions : List (Contribution F)) :
    ((outcomes contributions).map (·.metricCount)).sum =
      (CategoryKey.all.map (reportedCount contributions)).sum := by
  rw [outcomes]
  induction CategoryKey.all with
  | nil => rfl
  | cons key rest ih =>
      rw [List.filterMap_cons, List.map_cons, List.sum_cons, ← ih,
        reportedCount]
      cases outcome? contributions key with
      | none => exact (Nat.zero_add _).symm
      | some category => rfl

theorem reportedCount_le
    (contributions : List (Contribution F)) (key : CategoryKey) :
    reportedCount contributions key ≤
      (categoryPairs contributions key).length := by
  rw [reportedCount, outcome?]
  cases weightedGeometricMean (categoryPairs contributions key) with
  | none => exact Nat.zero_le _
  | some gm => exact Nat.le_refl _

/-- A category reports its metrics if it has a mean, or none to report. -/
theorem reportedCount_eq_length_iff
    (contributions : List (Contribution F)) (key : CategoryKey) :
    reportedCount contributions key =
        (categoryPairs contributions key).length ↔
      (categoryPairs contributions key ≠ [] →
        (weightedGeometricMean
          (categoryPairs contributions key)).isSome = true) := by
  rw [reportedCount, outcome?]
  cases weightedGeometricMean (categoryPairs contributions key) with
  | none =>
      rw [Option.map_none, Option.map_none, Option.getD_none, eq_comm,
        List.length_eq_zero_iff]
      simp
  | some gm => simp

omit [F64 F] in
theorem forall_mem_categoryPairs [F64 F]
    {contributions : List (Contribution F)}
    (h : ∀ c ∈ contributions,
      F64.IsPositive c.ratio ∧ F64.IsPositive c.weight)
    (key : CategoryKey) :
    ∀ pair ∈ categoryPairs contributions key,
      F64.IsPositive pair.1 ∧ F64.IsPositive pair.2 := by
  intro pair hpair
  obtain ⟨c, hc, rfl⟩ := List.mem_map.mp hpair
  exact h c (List.mem_filter.mp hc).1

/-- Positive contributions are all reported exactly if every category that
collected some has a usable weight. -/
theorem sum_metricCount_eq_length_iff [F64.ComparesZero F]
    {contributions : List (Contribution F)}
    (h : ∀ c ∈ contributions,
      F64.IsPositive c.ratio ∧ F64.IsPositive c.weight) :
    ((outcomes contributions).map (·.metricCount)).sum =
        contributions.length ↔
      ∀ key, categoryPairs contributions key ≠ [] →
        HasUsableWeight contributions key := by
  rw [sum_metricCount_outcomes, ← sum_length_categoryPairs,
    sum_map_eq_iff_of_le fun key _ => reportedCount_le contributions key]
  have hpairs := forall_mem_categoryPairs h
  constructor
  · intro hall key hne
    exact (isSome_weightedGeometricMean_iff hne (hpairs key)).mp
      ((reportedCount_eq_length_iff contributions key).mp
        (hall key key.mem_all) hne)
  · intro hall key _
    rw [reportedCount_eq_length_iff]
    intro hne
    exact (isSome_weightedGeometricMean_iff hne (hpairs key)).mpr
      (hall key hne)

/-! ## The metrics of the scored cycle -/

theorem ScoringModel.isPositive_of_contribution?
    {model : ScoringModel F} (hmodel : model.HasPositivePoints)
    {reading : String × Metric F} {c : Contribution F}
    (h : model.contribution? reading = some c) :
    F64.IsPositive c.ratio ∧ F64.IsPositive c.weight := by
  obtain ⟨reference, hreference, h⟩ := Option.bind_eq_some_iff.mp h
  obtain ⟨ratio, hratio, h⟩ := Option.bind_eq_some_iff.mp h
  obtain rfl := Option.some.inj h
  exact ⟨isPositive_of_normalise hratio,
    (hmodel reading.1 reading.2.key reference hreference).2⟩

/-- Every reading either contributes or is reported as unreferenced. -/
theorem length_contributions_add_length_unreferencedMetrics
    (model : ScoringModel F) (profile : Profile)
    (modules : List (ModuleResult F)) :
    (model.contributions modules).length +
        (model.scoreRun profile modules).unreferencedMetrics.length =
      (readings (Sustained.scoringCycle modules) modules).length := by
  rw [ScoringModel.unreferencedMetrics_scoreRun, ScoringModel.contributions]
  refine length_filterMap_add_length_filterMap (fun reading => ?_) _
  rw [ScoringModel.unreferenced?]
  cases (model.contribution? reading).isSome <;> rfl

/-- The readings of a cycle are as many as its scoreable results have
metrics. -/
theorem length_readings (cycle : ℕ) (modules : List (ModuleResult F)) :
    (readings cycle modules).length =
      ((Sustained.inCycle cycle modules).map (·.metrics.length)).sum := by
  rw [readings_eq, List.length_flatMap]
  simp only [List.length_map]

/-- The modules of a category are those with a metric normalised into it. -/
theorem mem_categoryModules_contributions_iff
    {model : ScoringModel F} {modules : List (ModuleResult F)}
    {key : CategoryKey} {id : String} :
    id ∈ categoryModules (model.contributions modules) key ↔
      ∃ module ∈
          Sustained.inCycle (Sustained.scoringCycle modules) modules,
        module.module.id.asStr = id ∧ model.NormalisedInto module key := by
  rw [categoryModules, List.mem_toFinset, List.mem_map]
  constructor
  · rintro ⟨c, hc, rfl⟩
    obtain ⟨hc, hkey⟩ := List.mem_filter.mp hc
    obtain ⟨reading, hreading, hsome⟩ := List.mem_filterMap.mp hc
    rw [readings_eq] at hreading
    obtain ⟨module, hmodule, hreading⟩ := List.mem_flatMap.mp hreading
    obtain ⟨metric, hmetric, rfl⟩ := List.mem_map.mp hreading
    obtain ⟨reference, hreference, hsome⟩ :=
      Option.bind_eq_some_iff.mp hsome
    obtain ⟨ratio, hratio, hsome⟩ := Option.bind_eq_some_iff.mp hsome
    obtain rfl := Option.some.inj hsome
    exact ⟨module, hmodule, rfl, metric, hmetric, reference, hreference,
      of_decide_eq_true hkey, hratio ▸ rfl⟩
  · rintro ⟨module, hmodule, rfl, metric, hmetric, reference, hreference,
      rfl, hratio⟩
    obtain ⟨ratio, hratio⟩ := Option.isSome_iff_exists.mp hratio
    let c : Contribution F :=
      { moduleId := module.module.id.asStr
        category := reference.category
        facet := reference.facet
        ratio := ratio
        weight := reference.weight }
    have hsome :
        model.contribution? (module.module.id.asStr, metric) = some c := by
      simp [ScoringModel.contribution?, hreference, hratio, c]
    have hreading : (module.module.id.asStr, metric) ∈
        readings (Sustained.scoringCycle modules) modules := by
      rw [readings_eq]
      exact List.mem_flatMap.mpr
        ⟨module, hmodule, List.mem_map.mpr ⟨metric, hmetric, rfl⟩⟩
    have hc : c ∈ model.contributions modules :=
      List.mem_filterMap.mpr ⟨_, hreading, hsome⟩
    exact ⟨c, List.mem_filter.mpr ⟨hc, decide_eq_true rfl⟩, rfl⟩

theorem readings_eq_of_inCycle_eq
    {cycle : ℕ} {modules others : List (ModuleResult F)}
    (h : Sustained.inCycle cycle others = Sustained.inCycle cycle modules) :
    readings cycle others = readings cycle modules := by
  rw [readings_eq, readings_eq, h]

/-- Every metric of the scored cycle is counted once, in a category or as
unreferenced, exactly if the weights of each category add up; a category names
the modules that scored in it; and nothing outside the scored cycle matters. -/
theorem metrics_conserved_iff [F64.ComparesZero F]
    (model : ScoringModel F) (hmodel : model.HasPositivePoints)
    (profile : Profile) (modules : List (ModuleResult F)) :
    (((model.scoreRun profile modules).categories.map (·.metricCount)).sum +
          (model.scoreRun profile modules).unreferencedMetrics.length =
        ((Sustained.inCycle (Sustained.scoringCycle modules) modules).map
          (·.metrics.length)).sum ↔
      ∀ key, categoryPairs (model.contributions modules) key ≠ [] →
        HasUsableWeight (model.contributions modules) key) ∧
      (∀ category ∈ (model.scoreRun profile modules).categories,
        category.modules.Pairwise (· < ·) ∧
          ∀ id, id ∈ category.modules ↔
            ∃ module ∈
                Sustained.inCycle (Sustained.scoringCycle modules) modules,
              module.module.id.asStr = id ∧
                model.NormalisedInto module category.key) ∧
      ∀ others, Sustained.scoringCycle others =
          Sustained.scoringCycle modules →
        Sustained.inCycle (Sustained.scoringCycle modules) others =
          Sustained.inCycle (Sustained.scoringCycle modules) modules →
        (model.scoreRun profile others).categories =
            (model.scoreRun profile modules).categories ∧
          (model.scoreRun profile others).unreferencedMetrics =
            (model.scoreRun profile modules).unreferencedMetrics := by
  refine ⟨?_, ?_, ?_⟩
  · have hpositive : ∀ c ∈ model.contributions modules,
        F64.IsPositive c.ratio ∧ F64.IsPositive c.weight := by
      intro c hc
      obtain ⟨reading, _, hsome⟩ := List.mem_filterMap.mp hc
      exact ScoringModel.isPositive_of_contribution? hmodel hsome
    rw [← sum_metricCount_eq_length_iff hpositive, ← length_readings,
      ← length_contributions_add_length_unreferencedMetrics model profile,
      ScoringModel.categories_scoreRun]
    exact Nat.add_right_cancel_iff
  · intro category hcategory
    rw [ScoringModel.categories_scoreRun] at hcategory
    obtain ⟨key, _, hsome⟩ := List.mem_filterMap.mp hcategory
    obtain ⟨gm, _, rfl⟩ := Option.map_eq_some_iff.mp hsome
    have hsorted : ((categoryModules (model.contributions modules) key).sort
        (· ≤ ·)).Pairwise (· < ·) :=
      (Finset.sortedLT_sort _).pairwise
    refine ⟨hsorted, fun id => ?_⟩
    exact (Finset.mem_sort _).trans mem_categoryModules_contributions_iff
  · intro others hcycle hin
    have hcontributions :
        model.contributions others = model.contributions modules := by
      rw [ScoringModel.contributions, ScoringModel.contributions, hcycle,
        readings_eq_of_inCycle_eq hin]
    rw [ScoringModel.categories_scoreRun, ScoringModel.categories_scoreRun,
      ScoringModel.unreferencedMetrics_scoreRun,
      ScoringModel.unreferencedMetrics_scoreRun, hcontributions, hcycle,
      readings_eq_of_inCycle_eq hin]
    exact ⟨rfl, rfl⟩

/-! ## Weights that overflow -/

/-- A model with a single anchor, of the given weight. -/
def oneAnchorModel (weight : F) : ScoringModel F where
  version := scoringModelVersion
  reference :=
    { name := "DARC-REF-1"
      calibrated := false
      points := Std.ExtTreeMap.ofList
        [(scopedKey "cpu.mixed" "crypto_sha256.single",
          point 1900.0 weight .compute (some .singleCore))] compare }
  stabilityPenaltySpan := 0.10
  cvCeiling := 0.20
  weakLinkCapFactor := 4.0

/-- The same module recorded twice, with one metric each. -/
def repeatedRun : List (ModuleResult F) :=
  let metric := bareMetric "crypto_sha256.single" 1900.0 none
  [oneMetricResult cpuMixed 0 metric, oneMetricResult cpuMixed 0 metric]

theorem hasPositivePoints_oneAnchorModel
    {weight : Float} (h : F64.IsPositive weight) :
    (oneAnchorModel weight).HasPositivePoints := by
  intro moduleId key reference hget
  have hmem := BTreeMap.mem_of_getElem?_ofList hget
  obtain ⟨-, rfl⟩ := Prod.mk.inj (List.mem_singleton.mp hmem)
  have hvalue : F64.IsPositive (1900.0 : Float) :=
    ⟨by decide, by decide⟩
  exact ⟨hvalue, h⟩

/-- With a unit weight, the repeated metric is counted twice. -/
theorem metrics_conserved_repeatedRun :
    (((oneAnchorModel (1.0 : Float)).scoreRun .standard
        repeatedRun).categories.map (·.metricCount)).sum +
      ((oneAnchorModel (1.0 : Float)).scoreRun .standard
        repeatedRun).unreferencedMetrics.length = 2 := by
  have hweight : F64.IsPositive (1.0 : Float) :=
    ⟨by decide, by decide⟩
  have husable : ∀ key, HasUsableWeight
      ((oneAnchorModel (1.0 : Float)).contributions repeatedRun) key ∨
        categoryPairs ((oneAnchorModel (1.0 : Float)).contributions
          repeatedRun) key = [] := by
    unfold HasUsableWeight
    intro key
    cases key <;> decide
  have htotal : ((Sustained.inCycle
      (Sustained.scoringCycle (repeatedRun (F := Float)))
        (repeatedRun (F := Float))).map (·.metrics.length)).sum = 2 := by
    decide
  rw [← htotal]
  exact (metrics_conserved_iff _ (hasPositivePoints_oneAnchorModel hweight)
    .standard repeatedRun).1.mpr fun key hne =>
      (husable key).resolve_right hne

/-- The largest power of two that a float can hold. -/
def heavyWeight : Float := Float.ofBits 0x7FE0000000000000

/-- Two weights that overflow when they are added take the category off the
card, and the metrics with it. -/
theorem metrics_lost_heavyWeight :
    ¬ ∀ model : ScoringModel Float, model.HasPositivePoints →
      ∀ (profile : Profile) (modules : List (ModuleResult Float)),
        ((model.scoreRun profile modules).categories.map
            (·.metricCount)).sum +
          (model.scoreRun profile modules).unreferencedMetrics.length =
        ((Sustained.inCycle (Sustained.scoringCycle modules) modules).map
          (·.metrics.length)).sum := by
  intro h
  have hweight : F64.IsPositive heavyWeight :=
    ⟨by decide, by decide⟩
  exact absurd
    (h (oneAnchorModel heavyWeight)
      (hasPositivePoints_oneAnchorModel hweight) .standard repeatedRun)
    (by decide)

end Darcbench
