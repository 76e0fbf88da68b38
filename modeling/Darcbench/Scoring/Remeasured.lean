import Darcbench.Scoring.Cycles
import Darcbench.Scoring.RelatedCards

/-!
# Runs that differ in their metrics only

Two runs with the same results up to their metrics score the same cycle, and
their readings lie side by side.  What relates the metrics therefore relates
the contributions.
-/

namespace Darcbench

variable {F : Type} [F64 F]

/-- Two runs that differ in nothing but the metrics of their results, and
there only as `R` allows. -/
def Remeasured (R : ModuleResult F → Metric F → Metric F → Prop)
    (modules modules' : List (ModuleResult F)) : Prop :=
  List.Forall₂
    (fun module module' => ∃ metrics,
      module' = { module with metrics := metrics } ∧
        List.Forall₂ (R module) module.metrics metrics)
    modules modules'

/-- Two readings of the same module in the same place of a run. -/
def ReadingRel (R : ModuleResult F → Metric F → Metric F → Prop)
    (cycle : ℕ) (modules : List (ModuleResult F))
    (reading reading' : String × Metric F) : Prop :=
  ∃ module ∈ Sustained.inCycle cycle modules,
    reading.1 = module.module.id.asStr ∧
      reading'.1 = module.module.id.asStr ∧ R module reading.2 reading'.2

namespace Remeasured

variable {R : ModuleResult F → Metric F → Metric F → Prop}
  {modules modules' : List (ModuleResult F)}

theorem imp
    {R' : ModuleResult F → Metric F → Metric F → Prop}
    (hR : ∀ module a b, R module a b → R' module a b)
    (h : Remeasured R modules modules') :
    Remeasured R' modules modules' := by
  refine List.Forall₂.imp ?_ h
  rintro module _ ⟨metrics, rfl, hmetrics⟩
  exact ⟨metrics, rfl, hmetrics.imp (hR module)⟩

theorem completeCycles_eq (h : Remeasured R modules modules') :
    Sustained.completeCycles modules = Sustained.completeCycles modules' := by
  have hsets : modules.foldl Sustained.CycleSets.record .empty =
      modules'.foldl Sustained.CycleSets.record .empty := by
    refine List.rel_foldl (P := Eq) ?_ rfl h
    rintro sets _ rfl module _ ⟨metrics, rfl, _⟩
    rfl
  rw [Sustained.completeCycles, hsets]
  rfl

theorem scoringCycle_eq (h : Remeasured R modules modules') :
    Sustained.scoringCycle modules = Sustained.scoringCycle modules' := by
  rw [Sustained.scoringCycle, h.completeCycles_eq, Sustained.scoringCycle]

/-- The readings of a cycle lie side by side. -/
theorem readings_rel (h : Remeasured R modules modules') (cycle : ℕ) :
    List.Forall₂ (ReadingRel R cycle modules)
      (readings cycle modules) (readings cycle modules') := by
  -- The members are remembered, since a reading names its module.
  have hmem : List.Forall₂
      (fun module module' => module ∈ modules ∧ ∃ metrics,
        module' = { module with metrics := metrics } ∧
          List.Forall₂ (R module) module.metrics metrics)
      modules modules' :=
    (List.forall₂_and_left (p := (· ∈ modules)) _ _).mpr ⟨fun _ h => h, h⟩
  have hfilter := List.rel_filter
    (p := fun module : ModuleResult F =>
      module.status.isScoreable && module.cycle == cycle)
    (q := fun module : ModuleResult F =>
      module.status.isScoreable && module.cycle == cycle)
    (R := fun module module' => module ∈ modules ∧ ∃ metrics,
        module' = { module with metrics := metrics } ∧
          List.Forall₂ (R module) module.metrics metrics)
    (by
      rintro module _ ⟨_, metrics, rfl, _⟩
      exact Iff.rfl) hmem
  have hcycle : ∀ module ∈ modules.filter (fun module =>
      module.status.isScoreable && module.cycle == cycle),
      module ∈ Sustained.inCycle cycle modules := by
    intro module hmodule
    obtain ⟨hmodule, hcond⟩ := List.mem_filter.mp hmodule
    rw [Bool.and_eq_true, beq_iff_eq] at hcond
    exact Sustained.mem_inCycle_iff.mpr ⟨hmodule, hcond⟩
  have hfilter' := (List.forall₂_and_left _ _).mpr ⟨hcycle, hfilter⟩
  refine List.rel_flatMap hfilter' ?_
  rintro module _ ⟨hmodule, _, metrics, rfl, hmetrics⟩
  exact List.rel_map
    (fun {a b} hab => ⟨module, hmodule, rfl, rfl, hab⟩) hmetrics

/-- Metrics have no part in the count of instability warnings. -/
theorem instabilityFlags_recordMetric
    (model : ScoringModel F) (moduleId : String) (tally : Tally F)
    (metric : Metric F) :
    (tally.recordMetric model moduleId metric).instabilityFlags =
      tally.instabilityFlags := by
  rw [Tally.recordMetric]
  cases model.reference.get moduleId metric.key with
  | none => rfl
  | some reference =>
      dsimp only
      have hcv : (tally.recordCv metric.summary.cv).instabilityFlags =
          tally.instabilityFlags := by
        cases metric.summary.cv <;> rfl
      cases normalise metric.value reference.value reference.direction with
      | none => exact hcv
      | some ratio => exact hcv

theorem instabilityFlags_foldl_recordMetric
    (model : ScoringModel F) (moduleId : String) (tally : Tally F)
    (metrics : List (Metric F)) :
    (metrics.foldl (Tally.recordMetric model moduleId) tally).instabilityFlags =
      tally.instabilityFlags := by
  induction metrics generalizing tally with
  | nil => rfl
  | cons metric rest ih =>
      rw [List.foldl_cons, ih, instabilityFlags_recordMetric]

theorem instabilityFlags_eq
    (h : Remeasured R modules modules') (model : ScoringModel F)
    (profile : Profile) :
    (model.scoreRun profile modules).instabilityFlags =
      (model.scoreRun profile modules').instabilityFlags := by
  change (model.tally modules).instabilityFlags =
    (model.tally modules').instabilityFlags
  rw [ScoringModel.tally, ScoringModel.tally, ← h.scoringCycle_eq]
  refine List.rel_foldl
    (P := fun tally tally' : Tally F =>
      tally.instabilityFlags = tally'.instabilityFlags) ?_ rfl h
  rintro tally tally' htally module _ ⟨metrics, rfl, _⟩
  rw [Tally.recordModule, Tally.recordModule]
  split
  · exact htally
  · split
    · exact htally
    · dsimp only
      rw [instabilityFlags_foldl_recordMetric,
        instabilityFlags_foldl_recordMetric, htally]

end Remeasured

/-! ## From related metrics to related runs -/

/-- Two measurements of one metric, with the same key and the same variation,
whose contributions are related. -/
structure MetricRel (model : ScoringModel Exact) (S : ℝ → ℝ → Prop)
    (moduleId : String) (a b : Metric Exact) : Prop where
  key : a.key = b.key
  cv : a.summary.cv = b.summary.cv
  contribution : Option.Rel (Contribution.Rel S)
    (model.contribution? (moduleId, a)) (model.contribution? (moduleId, b))

/-- A run is related to another if each metric of its scored cycle is. -/
theorem Remeasured.relatedRuns
    {model : ScoringModel Exact} {S : ℝ → ℝ → Prop}
    {R : ModuleResult Exact → Metric Exact → Metric Exact → Prop}
    {modules modules' : List (ModuleResult Exact)}
    (h : Remeasured R modules modules')
    (hR : ∀ module ∈
        Sustained.inCycle (Sustained.scoringCycle modules) modules,
      ∀ a b, R module a b → MetricRel model S module.module.id.asStr a b) :
    model.RelatedRuns S modules modules' := by
  have hreadings := h.readings_rel (Sustained.scoringCycle modules)
  have hmetric : ∀ reading reading',
      ReadingRel R (Sustained.scoringCycle modules) modules reading reading' →
      reading.1 = reading'.1 ∧
        MetricRel model S reading.1 reading.2 reading'.2 := by
    rintro ⟨_, a⟩ ⟨_, b⟩ ⟨module, hmodule, rfl, rfl, hab⟩
    exact ⟨rfl, hR module hmodule a b hab⟩
  exact
    { contributions := by
        rw [ScoringModel.contributions, ScoringModel.contributions,
          ← h.scoringCycle_eq]
        refine List.rel_filterMap ?_ hreadings
        rintro ⟨id, a⟩ ⟨_, b⟩ hrel
        obtain ⟨rfl, hab⟩ := hmetric _ _ hrel
        exact hab.contribution
      referencedCvs := by
        rw [ScoringModel.referencedCvs, ScoringModel.referencedCvs,
          ← h.scoringCycle_eq]
        refine filterMap_eq_of_forall₂ ?_ hreadings
        rintro ⟨id, a⟩ ⟨_, b⟩ hrel
        obtain ⟨rfl, hab⟩ := hmetric _ _ hrel
        rw [ScoringModel.cv?, ScoringModel.cv?, hab.key, hab.cv]
      unreferenced := by
        rw [← h.scoringCycle_eq]
        refine filterMap_eq_of_forall₂ ?_ hreadings
        rintro ⟨id, a⟩ ⟨_, b⟩ hrel
        obtain ⟨rfl, hab⟩ := hmetric _ _ hrel
        have hsome := isSome_eq_of_rel hab.contribution
        rw [ScoringModel.unreferenced?, ScoringModel.unreferenced?, hsome,
          hab.key] }

end Darcbench
