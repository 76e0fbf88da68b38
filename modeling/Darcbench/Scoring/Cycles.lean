import Darcbench.Scoring.Sustained

/-!
# Complete cycles

A cycle is complete when every module that ever produced a scoreable result
produced one in this cycle.  The sets that the walk over the results builds are
described here, and with them the cycle whose measurements are scored.
-/

namespace Darcbench

variable {F : Type} [F64 F]

namespace Sustained

/-- The results that can be scored. -/
def scoreable (modules : List (ModuleResult F)) : List (ModuleResult F) :=
  modules.filter fun module => module.status.isScoreable

/-- The scoreable results of a cycle. -/
def inCycle (cycle : ℕ) (modules : List (ModuleResult F)) :
    List (ModuleResult F) :=
  (scoreable modules).filter fun module => module.cycle = cycle

/-- The modules that some results are of. -/
def idsOf (modules : List (ModuleResult F)) : Finset String :=
  (modules.map fun module => module.module.id.asStr).toFinset

theorem mem_inCycle_iff
    {cycle : ℕ} {modules : List (ModuleResult F)} {module : ModuleResult F} :
    module ∈ inCycle cycle modules ↔
      module ∈ modules ∧ module.status.isScoreable = true ∧
        module.cycle = cycle := by
  rw [inCycle, scoreable, List.mem_filter, List.mem_filter,
    decide_eq_true_iff, and_assoc]

theorem idsOf_concat (modules : List (ModuleResult F))
    (module : ModuleResult F) :
    idsOf (modules ++ [module]) =
      insert module.module.id.asStr (idsOf modules) := by
  ext id
  simp [idsOf]

/-! ## The sets of the walk -/

/-- The sets that the walk over the results builds. -/
def cycleSets (modules : List (ModuleResult F)) : CycleSets :=
  modules.foldl CycleSets.record CycleSets.empty

theorem cycleSets_concat (modules : List (ModuleResult F))
    (module : ModuleResult F) :
    cycleSets (modules ++ [module]) =
      (cycleSets modules).record module := by
  rw [cycleSets, List.foldl_append]
  rfl

theorem expected_cycleSets (modules : List (ModuleResult F)) :
    (cycleSets modules).expected = idsOf (scoreable modules) := by
  induction modules using List.reverseRecOn with
  | nil => rfl
  | append_singleton modules module ih =>
      have hsplit : scoreable (modules ++ [module]) =
          scoreable modules ++ scoreable [module] :=
        List.filter_append _ _
      rw [cycleSets_concat, CycleSets.record, hsplit]
      by_cases hstatus : module.status.isScoreable = true
      · have hsingle : scoreable [module] = [module] := by
          simp [scoreable, hstatus]
        rw [if_pos hstatus, hsingle, idsOf_concat, ← ih]
      · have hsingle : scoreable [module] = [] := by
          simp [scoreable, hstatus]
        rw [if_neg hstatus, hsingle, List.append_nil, ih]

/-- A cycle has an entry exactly if it has a scoreable result. -/
theorem byCycle_cycleSets (modules : List (ModuleResult F)) (cycle : ℕ) :
    (cycleSets modules).byCycle[cycle]? =
      if (inCycle cycle modules).isEmpty then none
      else some (idsOf (inCycle cycle modules)) := by
  induction modules using List.reverseRecOn with
  | nil => rfl
  | append_singleton modules module ih =>
      have hsplit : inCycle cycle (modules ++ [module]) =
          inCycle cycle modules ++ inCycle cycle [module] := by
        rw [inCycle, inCycle, inCycle, scoreable, scoreable, scoreable,
          List.filter_append, List.filter_append]
      rw [cycleSets_concat, CycleSets.record, hsplit]
      by_cases hstatus : module.status.isScoreable = true
      · rw [if_pos hstatus]
        dsimp only
        by_cases hcycle : module.cycle = cycle
        · have hsingle : inCycle cycle [module] = [module] := by
            simp [inCycle, scoreable, hstatus, hcycle]
          rw [hsingle, idsOf_concat, hcycle, Std.ExtTreeMap.getElem?_alter_self,
            ih]
          cases hempty : (inCycle cycle modules).isEmpty with
          | true =>
              rw [List.isEmpty_iff.mp hempty]
              rfl
          | false => simp
        · have hsingle : inCycle cycle [module] = [] := by
            simp [inCycle, scoreable, hcycle]
          rw [hsingle, List.append_nil, Std.ExtTreeMap.getElem?_alter,
            if_neg (fun h => hcycle (compare_eq_iff_eq.mp h)), ih]
      · have hsingle : inCycle cycle [module] = [] := by
          simp [inCycle, scoreable, hstatus]
        rw [if_neg hstatus, hsingle, List.append_nil, ih]

/-! ## Complete cycles and the scored cycle -/

/-- A cycle is complete if it has results, and results of every module. -/
theorem mem_completeCycles_iff
    {modules : List (ModuleResult F)} {cycle : ℕ} :
    cycle ∈ completeCycles modules ↔
      inCycle cycle modules ≠ [] ∧
        idsOf (inCycle cycle modules) = idsOf (scoreable modules) := by
  have hentry : cycle ∈ completeCycles modules ↔
      (cycleSets modules).expected ≠ ∅ ∧
        (cycleSets modules).byCycle[cycle]? =
          some (cycleSets modules).expected := by
    rw [completeCycles, ← cycleSets]
    by_cases hexpected : (cycleSets modules).expected = ∅
    · simp [hexpected]
    · rw [if_neg hexpected, List.mem_map]
      constructor
      · rintro ⟨entry, hentry, rfl⟩
        obtain ⟨hmem, hequal⟩ := List.mem_filter.mp hentry
        rw [decide_eq_true_iff] at hequal
        exact ⟨hexpected, hequal ▸ BTreeMap.mem_toList_iff.mp hmem⟩
      · rintro ⟨_, hget⟩
        refine ⟨_, List.mem_filter.mpr
          ⟨BTreeMap.mem_toList_iff.mpr hget, ?_⟩, rfl⟩
        exact decide_eq_true_iff.mpr rfl
  rw [hentry, expected_cycleSets, byCycle_cycleSets]
  constructor
  · rintro ⟨_, hget⟩
    split at hget
    · exact absurd hget (by simp)
    · next hempty =>
        exact ⟨fun h => hempty (List.isEmpty_iff.mpr h),
          Option.some.inj hget⟩
  · rintro ⟨hne, hequal⟩
    have hempty : ¬ (inCycle cycle modules).isEmpty = true :=
      fun h => hne (List.isEmpty_iff.mp h)
    refine ⟨?_, by rw [if_neg hempty, hequal]⟩
    rw [← hequal]
    obtain ⟨module, hmodule⟩ := List.exists_mem_of_ne_nil _ hne
    refine Finset.ne_empty_of_mem (a := module.module.id.asStr) ?_
    rw [idsOf, List.mem_toFinset]
    exact List.mem_map.mpr ⟨module, hmodule, rfl⟩

theorem exists_mem_of_mem_completeCycles
    {modules : List (ModuleResult F)} {cycle : ℕ}
    (h : cycle ∈ completeCycles modules) :
    ∃ module ∈ modules, module.cycle = cycle := by
  obtain ⟨module, hmodule⟩ :=
    List.exists_mem_of_ne_nil _ (mem_completeCycles_iff.mp h).1
  obtain ⟨hmem, _, hcycle⟩ := mem_inCycle_iff.mp hmodule
  exact ⟨module, hmem, hcycle⟩

/-- Complete cycles are listed in the order in which they ran. -/
theorem completeCycles_sorted (modules : List (ModuleResult F)) :
    (completeCycles modules).Pairwise (· < ·) := by
  rw [completeCycles]
  split
  · exact List.Pairwise.nil
  · have hsorted := BTreeMap.keys_toList_sorted
      (modules.foldl CycleSets.record CycleSets.empty).byCycle
    rw [List.pairwise_map] at hsorted ⊢
    exact hsorted.filter _

/-- A run of a single pass scores this pass. -/
theorem scoringCycle_eq_zero
    {modules : List (ModuleResult F)}
    (h : ∀ module ∈ modules, module.cycle = 0) :
    scoringCycle modules = 0 := by
  rw [scoringCycle]
  cases hlast : (completeCycles modules).getLast? with
  | none => rfl
  | some cycle =>
      obtain ⟨module, hmodule, rfl⟩ := exists_mem_of_mem_completeCycles
        (List.mem_of_getLast? hlast)
      exact h module hmodule

end Sustained

end Darcbench
