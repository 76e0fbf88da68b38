import Darcbench.Protocol.Codec
import Darcbench.Scoring.Interrupted
import Darcbench.Scoring.FiniteCard

/-!
# Runs that are scored from nothing

The card is computed from one cycle: the last complete one, or else the first.
A run whose usable metrics all lie in other cycles has no category and no total.
-/

namespace Darcbench

namespace Sustained

variable {F : Type} [F64 F]

/-- A cycle with results of every module that has any. -/
def IsComplete (modules : List (ModuleResult F)) (cycle : ℕ) : Prop :=
  inCycle cycle modules ≠ [] ∧
    idsOf (inCycle cycle modules) = idsOf (scoreable modules)

/-- The last complete cycle, or the first cycle if none is complete. -/
def IsScored (modules : List (ModuleResult F)) (cycle : ℕ) : Prop :=
  IsGreatest {c | IsComplete modules c} cycle ∨
    (∀ c, ¬ IsComplete modules c) ∧ cycle = 0

theorem isGreatest_of_getLast? {cycles : List ℕ}
    (h : cycles.Pairwise (· < ·)) {last : ℕ}
    (hlast : cycles.getLast? = some last) :
    IsGreatest {c | c ∈ cycles} last := by
  obtain ⟨before, rfl⟩ := List.getLast?_eq_some_iff.mp hlast
  constructor
  · exact List.mem_append_right _ (List.mem_singleton_self _)
  · intro c hc
    rcases List.mem_append.mp hc with hc | hc
    · exact (List.pairwise_append.mp h).2.2 c hc last
        (List.mem_singleton_self _) |>.le
    · exact (List.mem_singleton.mp hc).le

theorem isScored_iff {modules : List (ModuleResult F)} {cycle : ℕ} :
    IsScored modules cycle ↔ cycle = scoringCycle modules := by
  have hset : {c | IsComplete modules c} = {c | c ∈ completeCycles modules} :=
    Set.ext fun c => mem_completeCycles_iff.symm
  have hnone : (∀ c, ¬ IsComplete modules c) ↔ completeCycles modules = [] := by
    rw [List.eq_nil_iff_forall_not_mem]
    exact forall_congr' fun c => not_congr mem_completeCycles_iff.symm
  rw [IsScored, hset, hnone, scoringCycle]
  cases hlast : (completeCycles modules).getLast? with
  | none =>
      have hnil := List.getLast?_eq_none_iff.mp hlast
      constructor
      · rintro (hgreatest | ⟨-, rfl⟩)
        · have hmem : cycle ∈ completeCycles modules := hgreatest.1
          rw [hnil] at hmem
          exact absurd hmem List.not_mem_nil
        · rfl
      · rintro rfl
        exact .inr ⟨hnil, rfl⟩
  | some last =>
      have hgreatest :=
        isGreatest_of_getLast? (completeCycles_sorted modules) hlast
      constructor
      · rintro (hcycle | ⟨hnil, -⟩)
        · exact hcycle.unique hgreatest
        · rw [hnil] at hlast
          cases hlast
      · rintro rfl
        exact .inl hgreatest

end Sustained

/-- The result can be scored, and carries a metric with an anchor and a positive
finite value. -/
def ModuleResult.CarriesScoreable {F : Type} [F64 F] (model : ScoringModel F)
    (result : ModuleResult F) : Prop :=
  result.status.isScoreable = true ∧
    ∃ metric ∈ result.metrics,
      (model.reference.get result.module.id.asStr metric.key).isSome = true ∧
        F64.IsPositive metric.value

/-- The card has a category and a total. -/
def ScoreCard.IsScored {F : Type} (card : ScoreCard F) : Prop :=
  card.categories ≠ [] ∧ card.total.isSome = true

section Nothing

variable {F : Type} [F64 F] (model : ScoringModel F) (profile : Profile)
  {modules : List (ModuleResult F)}

theorem mem_readings_iff {cycle : ℕ} {reading : String × Metric F} :
    reading ∈ readings cycle modules ↔
      ∃ result ∈ modules, result.status.isScoreable = true ∧
        result.cycle = cycle ∧ ∃ metric ∈ result.metrics,
          (result.module.id.asStr, metric) = reading := by
  simp only [readings, List.mem_flatMap, List.mem_filter, Bool.and_eq_true,
    beq_iff_eq, List.mem_map, and_assoc]

/-- A cycle without contributions gives a card without scores. -/
theorem not_isScored_of_contributions_eq_nil
    (h : model.contributions modules = []) :
    ¬ (model.scoreRun profile modules).IsScored := by
  rintro ⟨hcategories, -⟩
  refine hcategories ?_
  rw [ScoringModel.categories_scoreRun, h, outcomes]
  exact List.filterMap_eq_nil_iff.mpr fun key _ => rfl

end Nothing

/-! ## The scored cycle decides -/

theorem Exact.isPositive_iff {a : Exact} :
    F64.IsPositive a ↔ ∃ x, 0 < x ∧ a = .fin x := by
  constructor
  · rintro ⟨hfinite, hpos⟩
    obtain ⟨x, rfl⟩ := Exact.isFinite_eq_true_iff.mp hfinite
    rw [Exact.zero_eq] at hpos
    exact ⟨x, hpos, rfl⟩
  · rintro ⟨x, hx, rfl⟩
    refine ⟨Exact.isFinite_fin x, ?_⟩
    rw [Exact.zero_eq]
    exact hx

theorem hasPositiveAnchors_of_forVersion {version : String}
    {model : ScoringModel Exact}
    (h : ScoringModel.forVersion version = some model) :
    model.HasPositiveAnchors := by
  rw [ScoringModel.forVersion] at h
  split_ifs at h
  · exact Option.some.inj h ▸ hasPositiveAnchors_current
  · exact Option.some.inj h ▸ hasPositiveAnchors_dbs010Dev

namespace ScoringModel

variable {model : ScoringModel Exact} {modules : List (ModuleResult Exact)}

/-- A metric of the scored cycle contributes if its value is positive. -/
theorem contributions_ne_nil_iff (hanchors : model.HasPositiveAnchors) :
    model.contributions modules ≠ [] ↔
      ∃ result ∈ modules, result.cycle = Sustained.scoringCycle modules ∧
        result.CarriesScoreable model := by
  constructor
  · intro hne
    obtain ⟨contribution, hmem⟩ := List.exists_mem_of_ne_nil _ hne
    obtain ⟨reading, hreading, hsome⟩ := List.mem_filterMap.mp hmem
    obtain ⟨result, hresult, hstatus, hcycle, metric, hmetric, rfl⟩ :=
      mem_readings_iff.mp hreading
    obtain ⟨reference, href, hsome⟩ := Option.bind_eq_some_iff.mp hsome
    obtain ⟨ratio, hratio, -⟩ := Option.bind_eq_some_iff.mp hsome
    obtain ⟨x, y, hx, -, hvalue, -⟩ := normalise_eq_some_iff.mp hratio
    exact ⟨result, hresult, hcycle, hstatus, metric, hmetric,
      Option.isSome_iff_exists.mpr ⟨reference, href⟩,
      Exact.isPositive_iff.mpr ⟨x, hx, hvalue⟩⟩
  · rintro ⟨result, hresult, hcycle, hstatus, metric, hmetric, href, hvalue⟩
    obtain ⟨reference, href⟩ := Option.isSome_iff_exists.mp href
    obtain ⟨x, hx, hvalue⟩ := Exact.isPositive_iff.mp hvalue
    obtain ⟨y, w, hy, -, hy', -⟩ := hanchors _ _ _ href
    have hratio : normalise metric.value reference.value reference.direction =
        some (.fin (reference.direction.ratio x y)) := by
      rw [hvalue, hy']
      exact normalise_fin _ hx hy
    have hsome : (model.contribution?
        (result.module.id.asStr, metric)).isSome = true := by
      rw [contribution?, href, Option.bind_eq_bind, Option.bind_some, hratio]
      rfl
    obtain ⟨contribution, hsome⟩ := Option.isSome_iff_exists.mp hsome
    exact List.ne_nil_of_mem (List.mem_filterMap.mpr
      ⟨_, mem_readings_iff.mpr
        ⟨result, hresult, hstatus, hcycle, metric, hmetric, rfl⟩, hsome⟩)

end ScoringModel

/-- Two modules that fail in turn, after a first cycle in which both did. -/
def takingTurns : List (ModuleResult Float) :=
  [{ cpuCycle 0 with status := .failed, metrics := [] },
    { memoryCycle 0 with status := .failed, metrics := [] },
    cpuCycle 1, { memoryCycle 1 with status := .failed, metrics := [] },
    { cpuCycle 2 with status := .failed, metrics := [] }, memoryCycle 2]

end Darcbench
