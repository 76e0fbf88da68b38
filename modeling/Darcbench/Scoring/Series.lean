import Darcbench.Scoring.Cycles

/-!
# The series of a cycled run

Every series that the walk over the results builds is a nonempty list of usable
observations, and the retention of a run is read off series by series.
-/

namespace Darcbench

namespace Sustained

variable {F : Type} [F64 F]

/-- The series that the walk over the results builds. -/
def seriesOf (modules : List (ModuleResult F)) : Series F :=
  modules.foldl (recordModule (completeCycles modules)) ∅

/-- The number of cycles compared at each end of a run. -/
def windowSize (modules : List (ModuleResult F)) : ℕ :=
  Nat.max ((completeCycles modules).length / 3) 1

/-- The first complete cycles of a run. -/
def opening (modules : List (ModuleResult F)) : List ℕ :=
  (completeCycles modules).take (windowSize modules)

/-- The last complete cycles of a run. -/
def closing (modules : List (ModuleResult F)) : List ℕ :=
  (completeCycles modules).reverse.take (windowSize modules)

/-! ## Observations -/

/-- A value that the walk over the results does not leave out. -/
def Usable (value : F) : Prop :=
  F64.isFinite value = true ∧ ¬ value ≤ 0.0

/-- A series is never empty, and all its values are usable. -/
def Series.IsUsable (series : Series F) : Prop :=
  ∀ (key : String) (points : List (Observation F)),
    series[key]? = some points →
      points ≠ [] ∧ ∀ point ∈ points, Usable point.value

theorem Series.isUsable_empty : Series.IsUsable (∅ : Series F) := by
  intro key points h
  rw [Std.ExtTreeMap.getElem?_empty] at h
  exact absurd h (by simp)

theorem Series.IsUsable.recordMetric
    {series : Series F} (h : Series.IsUsable series)
    (module : ModuleResult F) (metric : Metric F) :
    Series.IsUsable (recordMetric module series metric) := by
  rw [Sustained.recordMetric]
  split
  · exact h
  · next hguard =>
      rw [Bool.or_eq_true, not_or, Bool.not_eq_true', Bool.not_eq_false,
        decide_eq_true_eq] at hguard
      intro key points hpoints
      rw [Std.ExtTreeMap.getElem?_alter] at hpoints
      split at hpoints
      · obtain rfl := Option.some.inj hpoints
        refine ⟨List.append_ne_nil_of_right_ne_nil _ (List.cons_ne_nil _ _),
          ?_⟩
        intro point hpoint
        rcases List.mem_append.mp hpoint with hpoint | hpoint
        · cases hold : series[scopedKey module.module.id.asStr metric.key]? with
          | none =>
              rw [hold] at hpoint
              exact absurd hpoint List.not_mem_nil
          | some old =>
              rw [hold] at hpoint
              exact (h _ old hold).2 point hpoint
        · rw [List.mem_singleton.mp hpoint]
          exact hguard
      · exact h key points hpoints

theorem Series.IsUsable.recordModule
    {series : Series F} (h : Series.IsUsable series) (eligible : List ℕ)
    (module : ModuleResult F) :
    Series.IsUsable (recordModule eligible series module) := by
  rw [Sustained.recordModule]
  split
  · exact h
  · split
    · exact h
    · generalize module.metrics = metrics
      induction metrics generalizing series with
      | nil => exact h
      | cons metric rest ih => exact ih (h.recordMetric module metric)

theorem isUsable_seriesOf (modules : List (ModuleResult F)) :
    Series.IsUsable (seriesOf modules) := by
  have hrun : ∀ (eligible : List ℕ) (rest : List (ModuleResult F))
      (series : Series F), Series.IsUsable series →
      Series.IsUsable (rest.foldl (Sustained.recordModule eligible) series) := by
    intro eligible rest
    induction rest with
    | nil => exact fun _ h => h
    | cons module rest ih =>
        exact fun series h => ih _ (h.recordModule eligible module)
  exact hrun _ modules ∅ Series.isUsable_empty

/-! ## Retention by metric -/

/-- The retention of a nonempty series, if it has one. -/
def retention? (opening closing : List ℕ) (points : List (Observation F)) :
    Option F :=
  (retainedOf opening closing points).getD none

theorem retainedOf_eq
    {opening closing : List ℕ} {points : List (Observation F)}
    (h : points ≠ []) :
    retainedOf opening closing points =
      some (retention? opening closing points) := by
  cases points with
  | nil => exact absurd rfl h
  | cons point rest =>
      have hsome : (retainedOf opening closing (point :: rest)).isSome := by
        rw [retainedOf]
        simp only [List.head?_cons, Option.map_some, Option.bind_eq_bind,
          Option.bind_some]
        split
        · split
          · rfl
          · split <;> rfl
        · rfl
      obtain ⟨result, hresult⟩ := Option.isSome_iff_exists.mp hsome
      rw [retention?, hresult]
      rfl

/-- The loop over the series collects the retention of each. -/
theorem exists_retainedByMetric
    {opening closing : List ℕ}
    (entries : List (String × List (Observation F)))
    (byMetric : BTreeMap String F)
    (hne : ∀ entry ∈ entries, entry.2 ≠ [])
    (hnodup : (entries.map Prod.fst).Nodup) :
    ∃ result, retainedByMetric opening closing entries byMetric = some result ∧
      ∀ key : String, result[key]? =
        ((entries.lookup key).bind (retention? opening closing)).or
          byMetric[key]? := by
  induction entries generalizing byMetric with
  | nil => exact ⟨byMetric, rfl, fun _ => rfl⟩
  | cons entry rest ih =>
      obtain ⟨key, points⟩ := entry
      rw [List.map_cons, List.nodup_cons] at hnodup
      have hpoints : points ≠ [] := hne _ List.mem_cons_self
      have hrest : ∀ entry ∈ rest, entry.2 ≠ [] :=
        fun entry hentry => hne entry (List.mem_cons_of_mem _ hentry)
      have hlookup : rest.lookup key = none := by
        rw [lookup_eq_none_iff_notMem_keys]
        exact hnodup.1
      rw [retainedByMetric, retainedOf_eq hpoints]
      cases hretention : retention? opening closing points with
      | none =>
          obtain ⟨result, hresult, hget⟩ := ih byMetric hrest hnodup.2
          refine ⟨result, hresult, fun key' => ?_⟩
          rw [hget, List.lookup_cons]
          by_cases hkey : key' = key
          · subst hkey
            rw [hlookup, beq_self_eq_true]
            simp [hretention]
          · rw [beq_eq_false_iff_ne.mpr hkey]
      | some ratio =>
          obtain ⟨result, hresult, hget⟩ :=
            ih (byMetric.insert key ratio) hrest hnodup.2
          refine ⟨result, hresult, fun key' => ?_⟩
          rw [hget, List.lookup_cons, Std.ExtTreeMap.getElem?_insert]
          by_cases hkey : key' = key
          · subst hkey
            rw [hlookup, beq_self_eq_true, if_pos (compare_eq_iff_eq.mpr rfl)]
            simp [hretention]
          · rw [beq_eq_false_iff_ne.mpr hkey,
              if_neg fun heq => hkey (compare_eq_iff_eq.mp heq).symm]

/-- What the analysis of a run collects. -/
theorem exists_retainedByMetric_seriesOf (modules : List (ModuleResult F)) :
    ∃ result, retainedByMetric (opening modules) (closing modules)
        (seriesOf modules).toList ∅ = some result ∧
      ∀ key : String, result[key]? =
        ((seriesOf modules)[key]?).bind
          (retention? (opening modules) (closing modules)) := by
  have hne : ∀ entry ∈ (seriesOf modules).toList, entry.2 ≠ [] :=
    fun entry hentry => (isUsable_seriesOf modules entry.1 entry.2
      (BTreeMap.mem_toList_iff.mp hentry)).1
  have hcollect : ∃ result, retainedByMetric (opening modules)
      (closing modules) (seriesOf modules).toList ∅ = some result ∧ _ :=
    exists_retainedByMetric _ ∅ hne (BTreeMap.keys_toList_nodup _)
  obtain ⟨result, hresult, hget⟩ := hcollect
  refine ⟨result, hresult, fun key => ?_⟩
  rw [hget, BTreeMap.lookup_toList, Std.ExtTreeMap.getElem?_empty,
    Option.or_none]

/-! ## The outcome -/

/-- The outcome of a run from the retention of its metrics. -/
def outcomeOf (cycles : List ℕ) (byMetric : BTreeMap String F) :
    Option (SustainedOutcome F) :=
  if byMetric.isEmpty then
    none
  else
    let logSum := F64.sum (byMetric.toList.map fun entry => F64.ln entry.2)
    let retention := F64.exp (logSum / F64.ofNat byMetric.size)
    if !F64.isFinite retention then
      none
    else
      some
        { retention := retention
          score := F64.min retention 1.0 * referenceAnchor
          cycles := cycles.length
          scoredCycle := cycles.getLast?.getD 0
          byMetric := byMetric }

theorem byMetric_of_outcomeOf
    {cycles : List ℕ} {byMetric : BTreeMap String F}
    {outcome : SustainedOutcome F}
    (h : outcomeOf cycles byMetric = some outcome) :
    outcome.byMetric = byMetric := by
  rw [outcomeOf] at h
  split at h
  · exact absurd h (by simp)
  · dsimp only at h
    split at h
    · exact absurd h (by simp)
    · exact (Option.some.inj h) ▸ rfl

theorem analyse_of_lt
    {modules : List (ModuleResult F)}
    (h : (completeCycles modules).length < minCyclesForRetention) :
    analyse modules = none := by
  rw [analyse, if_pos h]

/-- The analysis of a run that cycled. -/
theorem analyse_of_not_lt
    {modules : List (ModuleResult F)}
    (h : ¬ (completeCycles modules).length < minCyclesForRetention) :
    analyse modules =
      (retainedByMetric (opening modules) (closing modules)
        (seriesOf modules).toList ∅).bind
          (outcomeOf (completeCycles modules)) := by
  rw [analyse, if_neg h]
  rfl

end Sustained

end Darcbench
