import Darcbench.Agent.Antisymmetry
import Darcbench.Report.Tampering
import Darcbench.Scoring.Sustained

/-!
# Runs that measured the same thing

A comparison calls two runs comparable if it finds nothing that sets them
apart.  It looks at the machine, the model, the profile, the build target, the
agent's version and the modules behind each category.  It does not look at the
build profile, at the versions of the modules or at the cycle that was scored.
-/

namespace Darcbench

/-! ## The metrics of a recorded bundle -/

theorem ModuleId.asStr_injective : Function.Injective ModuleId.asStr := by
  rintro ⟨s, hs⟩ ⟨s', hs'⟩ h
  obtain rfl : s = s' := h
  rfl

theorem Profile.asStr_injective : Function.Injective Profile.asStr :=
  Profile.naming.name_injective

theorem RunRow.getElem?_metricsOf_scopedKey {F : Type} (row : RunRow F) (id : ModuleId)
    (metricKey : String) :
    row.metricsOf[scopedKey id.asStr metricKey]? =
      (row.metrics.find? (id, 0, metricKey)).map MetricRow.toIndexed := by
  ext metric
  rw [getElem?_metricsOf, Option.map_eq_some_iff]
  constructor
  · rintro ⟨m, hm, hscope, rfl⟩
    obtain ⟨hid, hkey⟩ := scopedKey_inj hscope
    rw [openingMetrics, List.mem_filter, decide_eq_true_eq] at hm
    refine ⟨m, Table.find?_eq_some_iff.mpr ⟨hm.1, ?_⟩, rfl⟩
    rw [MetricRow.key, hid, hkey, hm.2]
  · rintro ⟨m, hm, rfl⟩
    obtain ⟨hmem, hkey⟩ := Table.find?_eq_some_iff.mp hm
    rw [MetricRow.key, Prod.mk.injEq, Prod.mk.injEq] at hkey
    obtain ⟨rfl, hcycle, rfl⟩ := hkey
    exact ⟨m, List.mem_filter.mpr ⟨hmem, decide_eq_true hcycle⟩, rfl, rfl⟩

variable {F : Type} [F64 F]

theorem delta?_account_eq_some_iff
    {candidates : BTreeMap String (IndexedMetric F)} {key : String}
    {left right : IndexedMetric F} (hright : candidates[key]? = some right)
    {delta : MetricDelta F} :
    (account candidates (key, left)).delta? = some delta ↔
      (¬ (left.value ≤ 0.0 ∨ right.value ≤ 0.0) ∧
        F64.isFinite (left.ratio right) = true) ∧ delta = left.delta right := by
  simp only [account, hright]
  by_cases hpositive : left.value ≤ 0.0 ∨ right.value ≤ 0.0
  · rw [if_pos hpositive]
    constructor
    · intro h
      exact absurd h (by simp [Account.delta?])
    · intro h
      exact absurd hpositive h.1.1
  · rw [if_neg hpositive]
    by_cases hfinite : F64.isFinite (left.ratio right) = true
    · rw [if_pos hfinite]
      constructor
      · intro h
        exact ⟨⟨hpositive, hfinite⟩, (Option.some.inj h).symm⟩
      · rintro ⟨-, rfl⟩
        rfl
    · rw [if_neg hfinite]
      constructor
      · intro h
        exact absurd h (by simp [Account.delta?])
      · intro h
        exact absurd h.1.2 hfinite

namespace Bundle

/-- What the opening cycle measured last of a metric. -/
def lastOpening (bundle : Bundle F) (module metricKey : String) :
    Option (ModuleResult F × Metric F) :=
  bundle.measured.reverse.find? fun entry =>
    entry.1.module.id.asStr = module ∧ entry.1.cycle = 0 ∧
      entry.2.key = metricKey

theorem names_of_lastOpening {bundle : Bundle F} {module metricKey : String}
    {e : ModuleResult F × Metric F}
    (h : bundle.lastOpening module metricKey = some e) :
    e.1.module.id.asStr = module ∧ e.2.key = metricKey := by
  rw [lastOpening] at h
  have hfound := List.find?_some h
  obtain ⟨hmodule, -, hkey⟩ := of_decide_eq_true hfound
  exact ⟨hmodule, hkey⟩

end Bundle

/-- The total, if there is one, was scored from the opening cycle. -/
def Bundle.ScoredFromOpening (bundle : Bundle F) : Prop :=
  bundle.scores.total.isSome = true →
    Sustained.scoringCycle bundle.modules = 0

section

variable [Chrono] [Rfc3339] [JsonText F] [Crypto]

theorem Bundle.find?_metrics_toRow (bundle : Bundle F) (identity : ℤ × ℤ)
    (id : ModuleId) (metricKey : String) :
    (bundle.toRow identity).metrics.find? (id, 0, metricKey) =
      (bundle.lastOpening id.asStr metricKey).map fun e =>
        MetricRow.ofMetric e.1 e.2 := by
  have hkey : ∀ e : ModuleResult F × Metric F,
      decide ((MetricRow.ofMetric e.1 e.2).key = (id, 0, metricKey)) =
        decide (e.1.module.id.asStr = id.asStr ∧ e.1.cycle = 0 ∧
          e.2.key = metricKey) := by
    intro e
    rw [decide_eq_decide, MetricRow.key, Prod.mk.injEq, Prod.mk.injEq]
    have hid : e.1.module.id = id ↔ e.1.module.id.asStr = id.asStr :=
      ModuleId.asStr_injective.eq_iff.symm
    exact and_congr_left fun _ => hid
  rw [toRow, Table.find?_ofRows, ← List.map_reverse, List.find?_map,
    lastOpening]
  congr 2
  funext e
  exact hkey e

theorem Bundle.getElem?_metricsOf_toRow (bundle : Bundle F)
    (identity : ℤ × ℤ) (id : ModuleId) (metricKey : String) :
    (bundle.toRow identity).metricsOf[scopedKey id.asStr metricKey]? =
      (bundle.lastOpening id.asStr metricKey).map fun e =>
        (MetricRow.ofMetric e.1 e.2).toIndexed := by
  rw [RunRow.getElem?_metricsOf_scopedKey, find?_metrics_toRow,
    Option.map_map]
  rfl

/-! ## What a comparison should say -/

/-- The modules that the index records for the categories of a bundle.  An
empty basket means that the bundle does not record its modules. -/
def Bundle.recordedBaskets (bundle : Bundle F) :
    BTreeMap String (Finset String) :=
  (bundle.toRow (0, 0)).basketsOf

/-- Categories of both bundles were computed from the same modules, as far as
they are recorded. -/
def SameBaskets (baseline candidate : Bundle F) : Prop :=
  ∀ (key : String) (ids ids' : Finset String),
    baseline.recordedBaskets[key]? = some ids →
    candidate.recordedBaskets[key]? = some ids' →
    ids ≠ ∅ → ids' ≠ ∅ → ids = ids'

/-- The bundles measured the same thing, and the metrics of the comparison were
measured by the same workloads. -/
structure MeasuredAlike (baseline candidate : Bundle F)
    (comparison : Comparison F) : Prop where
  environmentDigest :
    baseline.run.environmentDigest = candidate.run.environmentDigest
  scoringModel : baseline.scores.scoringModel = candidate.scores.scoringModel
  profile : baseline.run.profile = candidate.run.profile
  buildTarget : baseline.metadata.buildTarget = candidate.metadata.buildTarget
  buildProfile :
    baseline.metadata.buildProfile = candidate.metadata.buildProfile
  agentVersion :
    baseline.metadata.agentVersion = candidate.metadata.agentVersion
  modules : ∀ delta ∈ comparison.metrics, ∃ e e',
    baseline.lastOpening delta.module delta.metricKey = some e ∧
      candidate.lastOpening delta.module delta.metricKey = some e' ∧
      e.1.module = e'.1.module
  baskets : SameBaskets baseline candidate
  baselineCycle : baseline.ScoredFromOpening
  candidateCycle : candidate.ScoredFromOpening

/-- Nothing that a comparison looks at sets the bundles apart. -/
structure LooksAlike (baseline candidate : Bundle F) : Prop where
  environmentDigest :
    baseline.run.environmentDigest = candidate.run.environmentDigest
  scoringModel : baseline.scores.scoringModel = candidate.scores.scoringModel
  profile : baseline.run.profile = candidate.run.profile
  notEndurance : baseline.run.profile ≠ .endurance
  buildTarget : baseline.metadata.buildTarget = candidate.metadata.buildTarget
  agentVersion :
    baseline.metadata.agentVersion = candidate.metadata.agentVersion
  baskets : SameBaskets baseline candidate

/-- What two runs measured of a metric has a ratio. -/
def Rated (e e' : ModuleResult F × Metric F) : Prop :=
  let left := (MetricRow.ofMetric e.1 e.2).toIndexed
  let right := (MetricRow.ofMetric e'.1 e'.2).toIndexed
  ¬ (left.value ≤ 0.0 ∨ right.value ≤ 0.0) ∧
    F64.isFinite (left.ratio right) = true

/-- The bundles agree on what a comparison does not look at. -/
structure AgreeOnTheRest (baseline candidate : Bundle F) : Prop where
  buildProfile :
    baseline.metadata.buildProfile = candidate.metadata.buildProfile
  modules : ∀ module metricKey e e',
    baseline.lastOpening module metricKey = some e →
    candidate.lastOpening module metricKey = some e' →
    Rated e e' → e.1.module = e'.1.module
  baselineCycle : baseline.ScoredFromOpening
  candidateCycle : candidate.ScoredFromOpening

/-! ## What a comparison says -/

theorem basketsOf_toRow (bundle : Bundle F) (identity : ℤ × ℤ) :
    (bundle.toRow identity).basketsOf = bundle.recordedBaskets :=
  rfl

theorem basketGaps_recordedBaskets (baseline candidate : Bundle F) :
    basketGaps baseline.recordedBaskets candidate.recordedBaskets = [] ↔
      SameBaskets baseline candidate := by
  rw [basketGaps_eq_nil_iff]
  constructor
  · intro h key ids ids' hids hids' hne hne'
    rcases h key ids ids' hids hids' with heq | hempty | hempty
    · exact heq
    · exact absurd hempty hne
    · exact absurd hempty hne'
  · intro h key ids ids' hids hids'
    by_cases hne : ids = ∅
    · exact .inr (.inl hne)
    · by_cases hne' : ids' = ∅
      · exact .inr (.inr hne')
      · exact .inl (h key ids ids' hids hids' hne hne')

theorem comparable_iff (baseline candidate : Bundle F) (i j : ℤ × ℤ) :
    ((baseline.toRow i).compareWith (candidate.toRow j)).comparable = true ↔
      LooksAlike baseline candidate := by
  rw [RunRow.compareWith, List.isEmpty_iff, List.append_eq_nil_iff,
    comparabilityGaps_eq_nil_iff, basketsOf_toRow, basketsOf_toRow,
    basketGaps_recordedBaskets]
  constructor
  · rintro ⟨⟨henvironment, hmodel, hprofile, ⟨hnot, -⟩, htarget, hversion⟩,
      hbaskets⟩
    exact ⟨henvironment, hmodel, Profile.asStr_injective hprofile,
      fun h => hnot (congrArg Profile.asStr h), htarget, hversion, hbaskets⟩
  · intro h
    have hnot : baseline.run.profile.asStr ≠ "endurance" :=
      fun heq => h.notEndurance (Profile.asStr_injective heq)
    have hprofile : baseline.run.profile.asStr = candidate.run.profile.asStr :=
      congrArg Profile.asStr h.profile
    have hnot' : candidate.run.profile.asStr ≠ "endurance" := by
      rwa [← hprofile]
    exact ⟨⟨h.environmentDigest, h.scoringModel, hprofile, ⟨hnot, hnot'⟩,
      h.buildTarget, h.agentVersion⟩, h.baskets⟩

/-- The comparison has a delta for each metric with a ratio. -/
theorem mem_metrics_iff (baseline candidate : Bundle F) (i j : ℤ × ℤ)
    (delta : MetricDelta F) :
    delta ∈ ((baseline.toRow i).compareWith (candidate.toRow j)).metrics ↔
      ∃ module metricKey e e',
        baseline.lastOpening module metricKey = some e ∧
          candidate.lastOpening module metricKey = some e' ∧ Rated e e' ∧
          delta = (MetricRow.ofMetric e.1 e.2).toIndexed.delta
            (MetricRow.ofMetric e'.1 e'.2).toIndexed := by
  rw [RunRow.compareWith, deltas, List.mem_filterMap]
  constructor
  · rintro ⟨⟨key, left⟩, hentry, hdelta⟩
    have hleft := BTreeMap.mem_toList_iff.mp hentry
    obtain ⟨m, -, rfl, -⟩ := RunRow.getElem?_metricsOf.mp hleft
    cases hright : (candidate.toRow j).metricsOf[m.scope]? with
    | none =>
        simp only [account, hright] at hdelta
        exact absurd hdelta (by simp [Account.delta?])
    | some right =>
        obtain ⟨hrated, rfl⟩ := (delta?_account_eq_some_iff hright).mp hdelta
        rw [MetricRow.scope, Bundle.getElem?_metricsOf_toRow,
          Option.map_eq_some_iff] at hleft hright
        obtain ⟨e, he, rfl⟩ := hleft
        obtain ⟨e', he', rfl⟩ := hright
        exact ⟨_, _, e, e', he, he', hrated, rfl⟩
  · rintro ⟨module, metricKey, e, e', he, he', hrated, rfl⟩
    obtain ⟨rfl, -⟩ := Bundle.names_of_lastOpening he
    have hleft := baseline.getElem?_metricsOf_toRow i e.1.module.id metricKey
    have hright := candidate.getElem?_metricsOf_toRow j e.1.module.id metricKey
    rw [he, Option.map_some] at hleft
    rw [he', Option.map_some] at hright
    exact ⟨_, BTreeMap.mem_toList_iff.mpr hleft,
      (delta?_account_eq_some_iff hright).mpr ⟨hrated, rfl⟩⟩

/-- Between bundles that look alike, the comparison is right exactly if they
agree on the rest. -/
theorem measuredAlike_iff {baseline candidate : Bundle F}
    (hlooks : LooksAlike baseline candidate) (i j : ℤ × ℤ) :
    MeasuredAlike baseline candidate
        ((baseline.toRow i).compareWith (candidate.toRow j)) ↔
      AgreeOnTheRest baseline candidate := by
  constructor
  · intro h
    refine ⟨h.buildProfile, ?_, h.baselineCycle, h.candidateCycle⟩
    intro module metricKey e e' he he' hrated
    obtain ⟨hmodule, hkey⟩ := Bundle.names_of_lastOpening he
    have hdelta := (mem_metrics_iff baseline candidate i j _).mpr
      ⟨module, metricKey, e, e', he, he', hrated, rfl⟩
    obtain ⟨d, d', hd, hd', heq⟩ := h.modules _ hdelta
    have hid : ((MetricRow.ofMetric e.1 e.2).toIndexed.delta
      (MetricRow.ofMetric e'.1 e'.2).toIndexed).module = module := hmodule
    have hmetric : ((MetricRow.ofMetric e.1 e.2).toIndexed.delta
      (MetricRow.ofMetric e'.1 e'.2).toIndexed).metricKey = metricKey := hkey
    rw [hid, hmetric] at hd hd'
    obtain rfl := Option.some.inj (he.symm.trans hd)
    obtain rfl := Option.some.inj (he'.symm.trans hd')
    exact heq
  · intro h
    refine ⟨hlooks.environmentDigest, hlooks.scoringModel, hlooks.profile,
      hlooks.buildTarget, h.buildProfile, hlooks.agentVersion, ?_,
      hlooks.baskets, h.baselineCycle, h.candidateCycle⟩
    intro delta hdelta
    obtain ⟨module, metricKey, e, e', he, he', hrated, rfl⟩ :=
      (mem_metrics_iff baseline candidate i j delta).mp hdelta
    obtain ⟨rfl, rfl⟩ := Bundle.names_of_lastOpening he
    exact ⟨e, e', he, he', h.modules _ _ e e' he he' hrated⟩

/-- What is called comparable was measured alike. -/
def RunIndex.ComparableIsRight (index : RunIndex F) (a b : RunId)
    (baseline candidate : Bundle F) : Prop :=
  ∀ comparison, index.compare a b = some comparison →
    comparison.comparable = true →
      MeasuredAlike baseline candidate comparison

/-- Recorded bundles that are called comparable were measured alike exactly if
something that a comparison looks at sets them apart or they agree on the
rest. -/
theorem comparableIsRight_iff {index : RunIndex F} {a b : RunId}
    {baseline candidate : Bundle F} {i j : ℤ × ℤ}
    (hbaseline : index.find? a = some (baseline.toRow i))
    (hcandidate : index.find? b = some (candidate.toRow j)) :
    index.ComparableIsRight a b baseline candidate ↔
      (LooksAlike baseline candidate → AgreeOnTheRest baseline candidate) := by
  have hcompare : index.compare a b =
      some ((baseline.toRow i).compareWith (candidate.toRow j)) := by
    rw [RunIndex.compare, hbaseline, hcandidate]
    rfl
  constructor
  · intro h hlooks
    exact (measuredAlike_iff hlooks i j).mp (h _ hcompare
      ((comparable_iff baseline candidate i j).mpr hlooks))
  · intro h comparison hcomparison hcomparable
    obtain rfl := Option.some.inj (hcompare.symm.trans hcomparison)
    have hlooks := (comparable_iff baseline candidate i j).mp hcomparable
    exact (measuredAlike_iff hlooks i j).mpr (h hlooks)

end

/-! ## A debug build beside a release build -/

open scoped StandIns

/-- The same run, by a debug build of the agent. -/
def debugRun : Bundle Float :=
  { StandIns.unsigned with
    metadata := { StandIns.unsigned.metadata with buildProfile := "debug" }
    run := { StandIns.unsigned.run with runId := StandIns.otherRunId } }

def mixedBuilds : RunIndex Float :=
  (Table.empty.insertOrReplace (StandIns.unsigned.toRow (1, 1))).insertOrReplace
    (debugRun.toRow (1, 2))

theorem find?_mixedBuilds :
    mixedBuilds.find? StandIns.runId =
        some (StandIns.unsigned.toRow (1, 1)) ∧
      mixedBuilds.find? StandIns.otherRunId =
        some (debugRun.toRow (1, 2)) := by
  have hne : StandIns.runId ≠ StandIns.otherRunId := by decide
  constructor
  · have hkept : mixedBuilds.find? StandIns.runId =
        (Table.empty.insertOrReplace
          (StandIns.unsigned.toRow (1, 1))).find? StandIns.runId :=
      Table.find?_insertOrReplace_of_ne _ hne
    exact hkept.trans (Table.find?_insertOrReplace_self _ _)
  · exact Table.find?_insertOrReplace_self _ _

theorem looksAlike_debugRun : LooksAlike StandIns.unsigned debugRun := by
  refine ⟨rfl, rfl, rfl, by decide, rfl, rfl, ?_⟩
  intro key ids ids' hids hids' _ _
  exact Option.some.inj (hids.symm.trans hids')

theorem comparableIsRight_iff_mixedBuilds :
    mixedBuilds.ComparableIsRight StandIns.runId StandIns.otherRunId
        StandIns.unsigned debugRun ↔
      (LooksAlike StandIns.unsigned debugRun →
        AgreeOnTheRest StandIns.unsigned debugRun) :=
  comparableIsRight_iff find?_mixedBuilds.1 find?_mixedBuilds.2

theorem not_comparableIsRight_mixedBuilds :
    mixedBuilds.find? StandIns.runId =
        some (StandIns.unsigned.toRow (1, 1)) ∧
      mixedBuilds.find? StandIns.otherRunId =
        some (debugRun.toRow (1, 2)) ∧
      ¬ mixedBuilds.ComparableIsRight StandIns.runId StandIns.otherRunId
        StandIns.unsigned debugRun := by
  obtain ⟨hbaseline, hcandidate⟩ := find?_mixedBuilds
  refine ⟨hbaseline, hcandidate, fun h => ?_⟩
  have hcompare : mixedBuilds.compare StandIns.runId StandIns.otherRunId =
      some ((StandIns.unsigned.toRow (1, 1)).compareWith
        (debugRun.toRow (1, 2))) := by
    rw [RunIndex.compare, hbaseline, hcandidate]
    rfl
  have halike := h _ hcompare
    ((comparable_iff _ _ _ _).mpr looksAlike_debugRun)
  exact absurd halike.buildProfile (by decide)

end Darcbench
