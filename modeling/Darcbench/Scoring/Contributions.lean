import Darcbench.Scoring.Cycles
import Darcbench.Scoring.Model

/-!
# What a run contributes to its scores

The walk over modules and metrics is described by a list: the readings of the
scored cycle, in order, and what each of them contributes.  The tally of the
walk is shown to hold exactly these contributions, sorted into its containers,
so that later results argue about a list instead of about nested loops.
-/

namespace Darcbench

variable {F : Type} [F64 F]

/-- What one metric contributes to the score of its category. -/
structure Contribution (F : Type) where
  moduleId : String
  category : CategoryKey
  facet : Option Facet
  ratio : F
  weight : F

/-- The metrics of the scoreable results of a cycle, with their modules. -/
def readings (cycle : ℕ) (modules : List (ModuleResult F)) :
    List (String × Metric F) :=
  (modules.filter fun module =>
    module.status.isScoreable && module.cycle == cycle).flatMap fun module =>
      module.metrics.map fun metric => (module.module.id.asStr, metric)

namespace ScoringModel

/-- The ratio of a metric to its anchor, with the way it rolls up. -/
def contribution? (model : ScoringModel F) (reading : String × Metric F) :
    Option (Contribution F) := do
  let reference ← model.reference.get reading.1 reading.2.key
  let ratio ← normalise reading.2.value reference.value reference.direction
  some
    { moduleId := reading.1
      category := reference.category
      facet := reference.facet
      ratio := ratio
      weight := reference.weight }

/-- The variation of a metric that has an anchor. -/
def cv? (model : ScoringModel F) (reading : String × Metric F) : Option F := do
  let _ ← model.reference.get reading.1 reading.2.key
  reading.2.summary.cv

/-- The key of a metric that contributes nothing. -/
def unreferenced? (model : ScoringModel F) (reading : String × Metric F) :
    Option String :=
  if (model.contribution? reading).isSome then
    none
  else
    some (scopedKey reading.1 reading.2.key)

/-- Everything that the scored cycle of a run contributes. -/
def contributions (model : ScoringModel F) (modules : List (ModuleResult F)) :
    List (Contribution F) :=
  (readings (Sustained.scoringCycle modules) modules).filterMap
    model.contribution?

/-- The variations of the metrics of the scored cycle that have an anchor. -/
def referencedCvs (model : ScoringModel F) (modules : List (ModuleResult F)) :
    List F :=
  (readings (Sustained.scoringCycle modules) modules).filterMap model.cv?

end ScoringModel

/-- The `(ratio, weight)` pairs of a category. -/
def categoryPairs (contributions : List (Contribution F)) (key : CategoryKey) :
    List (F × F) :=
  (contributions.filter fun c => c.category = key).map
    fun c => (c.ratio, c.weight)

/-- The modules that contributed to a category. -/
def categoryModules (contributions : List (Contribution F))
    (key : CategoryKey) : Finset String :=
  ((contributions.filter fun c => c.category = key).map
    (·.moduleId)).toFinset

/-- The `(ratio, weight)` pairs of a facet. -/
def facetPairs (contributions : List (Contribution F)) (facet : Facet) :
    List (F × F) :=
  (contributions.filter fun c => c.facet = some facet).map
    fun c => (c.ratio, c.weight)

namespace Tally

/-- A tally that holds exactly what some readings contribute. -/
structure Describes (model : ScoringModel F) (tally : Tally F)
    (seen : List (String × Metric F)) : Prop where
  byCategory : ∀ key, (tally.byCategory[key]?).getD [] =
    categoryPairs (seen.filterMap model.contribution?) key
  modulesByCategory : ∀ key, (tally.modulesByCategory[key]?).getD ∅ =
    categoryModules (seen.filterMap model.contribution?) key
  byFacet : ∀ facet, (tally.byFacet[facet]?).getD [] =
    facetPairs (seen.filterMap model.contribution?) facet
  unreferenced : tally.unreferenced = seen.filterMap model.unreferenced?
  cvs : tally.cvs = seen.filterMap model.cv?

theorem describes_empty (model : ScoringModel F) :
    Describes model Tally.empty [] where
  byCategory _ := by simp [Tally.empty, categoryPairs]
  modulesByCategory _ := by simp [Tally.empty, categoryModules]
  byFacet _ := by simp [Tally.empty, facetPairs]
  unreferenced := rfl
  cvs := rfl

omit [F64 F] in
theorem byCategory_recordRatio
    (tally : Tally F) (moduleId : String) (reference : ReferencePoint F)
    (ratio : F) (key : CategoryKey) :
    ((tally.recordRatio moduleId reference ratio).byCategory[key]?).getD [] =
      if key = reference.category then
        tally.byCategory[reference.category]?.getD [] ++
          [(ratio, reference.weight)]
      else
        tally.byCategory[key]?.getD [] :=
  BTreeMap.getD_alter tally.byCategory reference.category key []
    (· ++ [(ratio, reference.weight)])

omit [F64 F] in
theorem modulesByCategory_recordRatio
    (tally : Tally F) (moduleId : String) (reference : ReferencePoint F)
    (ratio : F) (key : CategoryKey) :
    ((tally.recordRatio moduleId reference ratio).modulesByCategory[key]?).getD
        ∅ =
      if key = reference.category then
        insert moduleId (tally.modulesByCategory[reference.category]?.getD ∅)
      else
        tally.modulesByCategory[key]?.getD ∅ :=
  BTreeMap.getD_alter tally.modulesByCategory reference.category key ∅
    (insert moduleId)

omit [F64 F] in
theorem byFacet_recordRatio
    (tally : Tally F) (moduleId : String) (reference : ReferencePoint F)
    (ratio : F) (facet : Facet) :
    ((tally.recordRatio moduleId reference ratio).byFacet[facet]?).getD [] =
      if reference.facet = some facet then
        tally.byFacet[facet]?.getD [] ++ [(ratio, reference.weight)]
      else
        tally.byFacet[facet]?.getD [] := by
  rw [recordRatio]
  cases reference.facet with
  | none => rfl
  | some facet' =>
      refine (BTreeMap.getD_alter tally.byFacet facet' facet []
        (· ++ [(ratio, reference.weight)])).trans ?_
      by_cases h : facet = facet'
      · rw [if_pos h, if_pos (by rw [h]), h]
      · rw [if_neg h, if_neg fun heq => h (Option.some.inj heq).symm]

omit [F64 F] in
theorem unreferenced_recordCv (tally : Tally F) (cv : Option F) :
    (tally.recordCv cv).unreferenced = tally.unreferenced := by
  cases cv <;> rfl

omit [F64 F] in
theorem cvs_recordCv (tally : Tally F) (cv : Option F) :
    (tally.recordCv cv).cvs = tally.cvs ++ cv.toList := by
  cases cv with
  | none => exact (List.append_nil _).symm
  | some cv => rfl

omit [F64 F] in
theorem byCategory_recordCv (tally : Tally F) (cv : Option F) :
    (tally.recordCv cv).byCategory = tally.byCategory := by
  cases cv <;> rfl

omit [F64 F] in
theorem modulesByCategory_recordCv (tally : Tally F) (cv : Option F) :
    (tally.recordCv cv).modulesByCategory = tally.modulesByCategory := by
  cases cv <;> rfl

omit [F64 F] in
theorem byFacet_recordCv (tally : Tally F) (cv : Option F) :
    (tally.recordCv cv).byFacet = tally.byFacet := by
  cases cv <;> rfl

/-- Recording a metric adds what this metric contributes, and nothing else. -/
theorem Describes.recordMetric
    {model : ScoringModel F} {tally : Tally F}
    {seen : List (String × Metric F)} (h : Describes model tally seen)
    (moduleId : String) (metric : Metric F) :
    Describes model (Tally.recordMetric model moduleId tally metric)
      (seen ++ [(moduleId, metric)]) := by
  rw [Tally.recordMetric]
  cases hreference : model.reference.get moduleId metric.key with
  | none =>
      have hcontribution : model.contribution? (moduleId, metric) = none := by
        simp [ScoringModel.contribution?, hreference]
      have hcv : model.cv? (moduleId, metric) = none := by
        simp [ScoringModel.cv?, hreference]
      exact
        { byCategory := by
            simpa [filterMap_concat, hcontribution, recordUnreferenced]
              using h.byCategory
          modulesByCategory := by
            simpa [filterMap_concat, hcontribution, recordUnreferenced]
              using h.modulesByCategory
          byFacet := by
            simpa [filterMap_concat, hcontribution, recordUnreferenced]
              using h.byFacet
          unreferenced := by
            rw [filterMap_concat, ← h.unreferenced,
              ScoringModel.unreferenced?, hcontribution]
            rfl
          cvs := by
            rw [filterMap_concat, ← h.cvs, hcv]
            exact (List.append_nil _).symm }
  | some reference =>
      have hcv : model.cv? (moduleId, metric) = metric.summary.cv := by
        simp [ScoringModel.cv?, hreference]
      dsimp only
      cases hratio :
          normalise metric.value reference.value reference.direction with
      | none =>
          have hcontribution :
              model.contribution? (moduleId, metric) = none := by
            simp [ScoringModel.contribution?, hreference, hratio]
          exact
            { byCategory := by
                simpa [filterMap_concat, hcontribution, recordUnreferenced,
                  byCategory_recordCv] using h.byCategory
              modulesByCategory := by
                simpa [filterMap_concat, hcontribution, recordUnreferenced,
                  modulesByCategory_recordCv] using h.modulesByCategory
              byFacet := by
                simpa [filterMap_concat, hcontribution, recordUnreferenced,
                  byFacet_recordCv] using h.byFacet
              unreferenced := by
                rw [filterMap_concat, ← h.unreferenced,
                  ScoringModel.unreferenced?, hcontribution,
                  recordUnreferenced, unreferenced_recordCv]
                rfl
              cvs := by
                rw [filterMap_concat, ← h.cvs, hcv, recordUnreferenced,
                  cvs_recordCv] }
      | some ratio =>
          have hcontribution : model.contribution? (moduleId, metric) =
              some
                { moduleId := moduleId
                  category := reference.category
                  facet := reference.facet
                  ratio := ratio
                  weight := reference.weight } := by
            simp [ScoringModel.contribution?, hreference, hratio]
          exact
            { byCategory := by
                intro key
                rw [byCategory_recordRatio, byCategory_recordCv, h.byCategory,
                  h.byCategory, filterMap_concat, hcontribution]
                by_cases hkey : key = reference.category
                · simp [categoryPairs, hkey]
                · simp [categoryPairs, hkey, Ne.symm hkey]
              modulesByCategory := by
                intro key
                rw [modulesByCategory_recordRatio, modulesByCategory_recordCv,
                  h.modulesByCategory, h.modulesByCategory, filterMap_concat,
                  hcontribution]
                by_cases hkey : key = reference.category
                · ext id
                  simp [categoryModules, hkey]
                · simp [categoryModules, hkey, Ne.symm hkey]
              byFacet := by
                intro facet
                rw [byFacet_recordRatio, byFacet_recordCv, h.byFacet,
                  filterMap_concat, hcontribution]
                by_cases hfacet : reference.facet = some facet
                · simp [facetPairs, hfacet]
                · simp [facetPairs, hfacet]
              unreferenced := by
                rw [filterMap_concat, ← h.unreferenced,
                  ScoringModel.unreferenced?, hcontribution]
                exact (unreferenced_recordCv tally _).trans
                  (List.append_nil _).symm
              cvs := by
                rw [filterMap_concat, ← h.cvs, hcv]
                exact cvs_recordCv tally _ }

theorem Describes.foldl_recordMetric
    {model : ScoringModel F} {tally : Tally F}
    {seen : List (String × Metric F)} (h : Describes model tally seen)
    (moduleId : String) (metrics : List (Metric F)) :
    Describes model (metrics.foldl (Tally.recordMetric model moduleId) tally)
      (seen ++ metrics.map fun metric => (moduleId, metric)) := by
  induction metrics generalizing tally seen with
  | nil => simpa using h
  | cons metric rest ih =>
      have hrest := ih (h.recordMetric moduleId metric)
      rwa [List.append_assoc] at hrest

/-- The instability flags of a tally play no part in what it describes. -/
theorem Describes.withFlags
    {model : ScoringModel F} {tally : Tally F}
    {seen : List (String × Metric F)} (h : Describes model tally seen)
    (flags : ℕ) :
    Describes model { tally with instabilityFlags := flags } seen :=
  ⟨h.byCategory, h.modulesByCategory, h.byFacet, h.unreferenced, h.cvs⟩

theorem Describes.recordModule
    {model : ScoringModel F} {tally : Tally F}
    {seen : List (String × Metric F)} (h : Describes model tally seen)
    (cycle : ℕ) (module : ModuleResult F) :
    Describes model (Tally.recordModule model cycle tally module)
      (seen ++ readings cycle [module]) := by
  rw [Tally.recordModule]
  cases hstatus : module.status.isScoreable with
  | false => simpa [readings, hstatus] using h
  | true =>
      by_cases hcycle : module.cycle = cycle
      · have hreadings : readings cycle [module] =
            module.metrics.map fun metric =>
              (module.module.id.asStr, metric) := by
          simp [readings, hstatus, hcycle]
        rw [hreadings]
        simpa [hcycle] using
          (h.foldl_recordMetric module.module.id.asStr
            module.metrics).withFlags _
      · simpa [readings, hstatus, hcycle] using h

theorem Describes.foldl_recordModule
    {model : ScoringModel F} {tally : Tally F}
    {seen : List (String × Metric F)} (h : Describes model tally seen)
    (cycle : ℕ) (modules : List (ModuleResult F)) :
    Describes model
      (modules.foldl (Tally.recordModule model cycle) tally)
      (seen ++ readings cycle modules) := by
  induction modules generalizing tally seen with
  | nil => simpa [readings] using h
  | cons module rest ih =>
      have happend : readings cycle (module :: rest) =
          readings cycle [module] ++ readings cycle rest := by
        rw [readings, readings, readings, ← List.flatMap_append,
          ← List.filter_append, List.singleton_append]
      have hrest := ih (h.recordModule cycle module)
      rwa [List.append_assoc, ← happend] at hrest

end Tally

/-- The walk collects what the scored cycle contributes. -/
theorem ScoringModel.describes_tally
    (model : ScoringModel F) (modules : List (ModuleResult F)) :
    Tally.Describes model (model.tally modules)
      (readings (Sustained.scoringCycle modules) modules) :=
  (Tally.describes_empty model).foldl_recordModule _ modules

/-- The readings of a cycle are those of its scoreable results. -/
theorem readings_eq (cycle : ℕ) (modules : List (ModuleResult F)) :
    readings cycle modules =
      (Sustained.inCycle cycle modules).flatMap fun module =>
        module.metrics.map fun metric => (module.module.id.asStr, metric) := by
  rw [readings, Sustained.inCycle, Sustained.scoreable, List.filter_filter]
  refine congrArg (List.flatMap _) (List.filter_congr fun module _ => ?_)
  rw [Bool.and_comm]
  rfl

/-! ## A run of one metric -/

/-- The result of a module that measured one metric in some cycle. -/
def oneMetricResult (id : ModuleId) (cycle : ℕ) (metric : Metric F) :
    ModuleResult F where
  module := { id := id, version := "1.0.0" }
  status := .completed
  cycle := cycle
  startedAt := 0
  finishedAt := 0
  durationMs := 0.0
  metrics := [metric]
  warnings := []
  error := none
  context := ∅

/-- A run of a single pass in which one module measured one metric. -/
def oneMetricRun (id : ModuleId) (metric : Metric F) :
    List (ModuleResult F) :=
  [oneMetricResult id 0 metric]

/-- A metric whose summary says nothing but its variation. -/
def bareMetric (key : String) (value : F) (cv : Option F) : Metric F where
  key := key
  label := key
  unit := "ops/s"
  direction := .higherIsBetter
  value := value
  summary :=
    { n := 0
      min := 0.0
      max := 0.0
      mean := 0.0
      median := 0.0
      stddev := 0.0
      cv := cv
      ci95 := none
      mad := none }
  samples := []
  outliers := []
  measuresDispersion := false
  tailQuantile := false

def cpuMixed : ModuleId where
  asStr := "cpu.mixed"
  valid := ModuleId.check_cpuMixed

theorem scoringCycle_oneMetricRun (id : ModuleId) (metric : Metric F) :
    Sustained.scoringCycle (oneMetricRun id metric) = 0 :=
  Sustained.scoringCycle_eq_zero fun _ h => by
    rw [List.mem_singleton.mp h, oneMetricResult]

theorem readings_oneMetricRun (id : ModuleId) (metric : Metric F) :
    readings (Sustained.scoringCycle (oneMetricRun id metric))
      (oneMetricRun id metric) = [(id.asStr, metric)] := by
  rw [scoringCycle_oneMetricRun]
  rfl

theorem ScoringModel.contributions_oneMetricRun
    (model : ScoringModel F) (id : ModuleId) (metric : Metric F) :
    model.contributions (oneMetricRun id metric) =
      (model.contribution? (id.asStr, metric)).toList := by
  rw [contributions, readings_oneMetricRun]
  cases h : model.contribution? (id.asStr, metric) <;> simp [h]

end Darcbench
