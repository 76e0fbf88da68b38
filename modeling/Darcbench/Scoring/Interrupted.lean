import Darcbench.Scoring.Contributions

/-!
# An interrupted last cycle

A batch of later results that covers only some of the modules completes no
cycle.  The complete cycles stay what they were, so the walk for the tally and
the walk for the series both pass the batch by, wherever its results stand in
the list.
-/

namespace Darcbench

variable {F : Type} [F64 F]

namespace Sustained

theorem mem_idsOf_iff {modules : List (ModuleResult F)} {id : String} :
    id ∈ idsOf modules ↔
      ∃ module ∈ modules, module.module.id.asStr = id := by
  rw [idsOf, List.mem_toFinset, List.mem_map]

theorem idsOf_subset
    {modules others : List (ModuleResult F)}
    (h : ∀ module ∈ modules, module ∈ others) :
    idsOf modules ⊆ idsOf others := by
  intro id hid
  obtain ⟨module, hmodule, rfl⟩ := mem_idsOf_iff.mp hid
  exact mem_idsOf_iff.mpr ⟨module, h module hmodule, rfl⟩

theorem mem_scoreable_iff
    {modules : List (ModuleResult F)} {module : ModuleResult F} :
    module ∈ scoreable modules ↔
      module ∈ modules ∧ module.status.isScoreable = true :=
  List.mem_filter

/-- A batch of results of later cycles, for some of the usable modules. -/
structure IsPartialBatch (modules batch : List (ModuleResult F)) : Prop where
  later : ∀ result ∈ batch, ∀ module ∈ modules, module.cycle < result.cycle
  partialIds : idsOf (scoreable batch) ⊂ idsOf (scoreable modules)

namespace IsPartialBatch

variable {modules batch merged : List (ModuleResult F)}

theorem idsOf_scoreable_eq
    (h : IsPartialBatch modules batch)
    (hmerged : Interleaved modules batch merged) :
    idsOf (scoreable merged) = idsOf (scoreable modules) := by
  ext id
  constructor
  · intro hid
    obtain ⟨module, hmodule, rfl⟩ := mem_idsOf_iff.mp hid
    obtain ⟨hmem, hstatus⟩ := mem_scoreable_iff.mp hmodule
    rcases (hmerged.mem_iff module).mp hmem with hmem | hmem
    · exact mem_idsOf_iff.mpr
        ⟨module, mem_scoreable_iff.mpr ⟨hmem, hstatus⟩, rfl⟩
    · exact h.partialIds.subset (mem_idsOf_iff.mpr
        ⟨module, mem_scoreable_iff.mpr ⟨hmem, hstatus⟩, rfl⟩)
  · intro hid
    refine idsOf_subset (fun module hmodule => ?_) hid
    obtain ⟨hmem, hstatus⟩ := mem_scoreable_iff.mp hmodule
    exact mem_scoreable_iff.mpr
      ⟨(hmerged.mem_iff module).mpr (Or.inl hmem), hstatus⟩

/-- The results of a cycle of the batch are results of the batch. -/
theorem inCycle_subset_scoreable
    (h : IsPartialBatch modules batch)
    (hmerged : Interleaved modules batch merged)
    {cycle : ℕ} (hcycle : ∃ result ∈ batch, result.cycle = cycle) :
    ∀ module ∈ inCycle cycle merged, module ∈ scoreable batch := by
  obtain ⟨result, hresult, rfl⟩ := hcycle
  intro module hmodule
  obtain ⟨hmem, hstatus, hsame⟩ := mem_inCycle_iff.mp hmodule
  rcases (hmerged.mem_iff module).mp hmem with hmem | hmem
  · exact absurd hsame (ne_of_lt (h.later result hresult module hmem))
  · exact mem_scoreable_iff.mpr ⟨hmem, hstatus⟩

/-- The results of any other cycle are those that were there before. -/
theorem inCycle_eq
    (hmerged : Interleaved modules batch merged)
    {cycle : ℕ} (hcycle : ¬ ∃ result ∈ batch, result.cycle = cycle) :
    inCycle cycle merged = inCycle cycle modules := by
  have hreject : ∀ result ∈ batch,
      (decide (result.cycle = cycle) && result.status.isScoreable) =
        false := by
    intro result hresult
    rw [decide_eq_false fun heq => hcycle ⟨result, hresult, heq⟩]
    rfl
  rw [inCycle, inCycle, scoreable, scoreable, List.filter_filter,
    List.filter_filter]
  exact hmerged.filter_eq hreject

theorem mem_completeCycles_iff
    (h : IsPartialBatch modules batch)
    (hmerged : Interleaved modules batch merged) (cycle : ℕ) :
    cycle ∈ completeCycles merged ↔ cycle ∈ completeCycles modules := by
  rw [Sustained.mem_completeCycles_iff, Sustained.mem_completeCycles_iff,
    h.idsOf_scoreable_eq hmerged]
  by_cases hcycle : ∃ result ∈ batch, result.cycle = cycle
  · -- A cycle of the batch is complete neither with it nor without it.
    have hsubset := idsOf_subset (h.inCycle_subset_scoreable hmerged hcycle)
    obtain ⟨result, hresult, rfl⟩ := hcycle
    have hempty : inCycle result.cycle modules = [] := by
      refine List.eq_nil_iff_forall_not_mem.mpr fun module hmodule => ?_
      obtain ⟨hmem, _, hsame⟩ := mem_inCycle_iff.mp hmodule
      exact absurd hsame (ne_of_lt (h.later result hresult module hmem))
    constructor
    · rintro ⟨_, hall⟩
      exact absurd (hall ▸ hsubset) h.partialIds.not_subset
    · rintro ⟨hne, _⟩
      exact absurd hempty hne
  · rw [inCycle_eq hmerged hcycle]

theorem completeCycles_eq
    (h : IsPartialBatch modules batch)
    (hmerged : Interleaved modules batch merged) :
    completeCycles merged = completeCycles modules := by
  have hperm : (completeCycles merged).Perm (completeCycles modules) :=
    (List.perm_ext_iff_of_nodup
      (completeCycles_sorted merged).nodup
      (completeCycles_sorted modules).nodup).mpr
        (h.mem_completeCycles_iff hmerged)
  exact hperm.eq_of_pairwise
    (fun a b _ _ hab hba => absurd hab (lt_asymm hba))
    (completeCycles_sorted merged) (completeCycles_sorted modules)

theorem cycle_notMem_completeCycles
    (h : IsPartialBatch modules batch)
    {result : ModuleResult F} (hresult : result ∈ batch) :
    result.cycle ∉ completeCycles modules := by
  intro hmem
  obtain ⟨module, hmodule, hcycle⟩ := exists_mem_of_mem_completeCycles hmem
  exact absurd hcycle (ne_of_lt (h.later result hresult module hmodule))

/-- Retention is measured over the complete cycles alone. -/
theorem analyse_eq
    (h : IsPartialBatch modules batch)
    (hmerged : Interleaved modules batch merged) :
    analyse merged = analyse modules := by
  have hskip : ∀ (series : Series F), ∀ result ∈ batch,
      recordModule (completeCycles modules) series result = series := by
    intro series result hresult
    have hcycle := h.cycle_notMem_completeCycles hresult
    rw [recordModule, if_pos (by simpa using hcycle)]
  rw [analyse, analyse, h.completeCycles_eq hmerged,
    hmerged.foldl_eq hskip]

end IsPartialBatch

end Sustained

open Sustained in
/-- An interrupted last cycle leaves the whole card as it was. -/
theorem scoreRun_interrupted
    (model : ScoringModel F) (profile : Profile)
    {modules batch merged : List (ModuleResult F)}
    (hcomplete : completeCycles modules ≠ [])
    (hbatch : IsPartialBatch modules batch)
    (hmerged : Interleaved modules batch merged) :
    model.scoreRun profile merged = model.scoreRun profile modules := by
  have hcycles := hbatch.completeCycles_eq hmerged
  have hscored : scoringCycle merged = scoringCycle modules := by
    rw [scoringCycle, scoringCycle, hcycles]
  -- Without a complete cycle the scored one would be a default, and the batch
  -- could be of this very cycle.
  have hmem : scoringCycle modules ∈ completeCycles modules := by
    rw [scoringCycle, List.getLast?_eq_some_getLast hcomplete]
    exact List.getLast_mem hcomplete
  have hskip : ∀ (tally : Tally F), ∀ result ∈ batch,
      Tally.recordModule model (scoringCycle modules) tally result =
        tally := by
    intro tally result hresult
    have hne : result.cycle ≠ scoringCycle modules := fun heq =>
      hbatch.cycle_notMem_completeCycles hresult (heq ▸ hmem)
    rw [Tally.recordModule, if_pos hne, ite_self]
  rw [ScoringModel.scoreRun, ScoringModel.scoreRun,
    hbatch.analyse_eq hmerged, ScoringModel.tally, ScoringModel.tally,
    hscored, hmerged.foldl_eq hskip]

def memoryBandwidth : ModuleId where
  asStr := "memory.bandwidth"
  valid := by decide

/-- What the first of two modules measured in a cycle. -/
def cpuCycle (cycle : ℕ) : ModuleResult F :=
  oneMetricResult cpuMixed cycle
    (bareMetric "crypto_sha256.single" 1900.0 none)

def memoryCycle (cycle : ℕ) : ModuleResult F :=
  oneMetricResult memoryBandwidth cycle
    (bareMetric "sequential_read.single" 9000.0 none)

/-- Two complete cycles, and a third that was cancelled half-way, with its
result among those of the first. -/
theorem scoreRun_interrupted_thirdCycle :
    (ScoringModel.current (F := Float)).scoreRun .endurance
        [cpuCycle 0, cpuCycle 2, memoryCycle 0, cpuCycle 1, memoryCycle 1] =
      (ScoringModel.current (F := Float)).scoreRun .endurance
        [cpuCycle 0, memoryCycle 0, cpuCycle 1, memoryCycle 1] := by
  have hmerged : Interleaved
      [cpuCycle (F := Float) 0, memoryCycle 0, cpuCycle 1, memoryCycle 1]
      [cpuCycle 2]
      [cpuCycle 0, cpuCycle 2, memoryCycle 0, cpuCycle 1, memoryCycle 1] :=
    .left _ (.right _ (.left _ (.left _ (.left _ .nil))))
  exact scoreRun_interrupted _ _ (by decide)
    ⟨by decide, by decide⟩ hmerged

end Darcbench
