import Darcbench.Scoring.DirectionBlind
import Darcbench.Scoring.ScopedKeys

/-!
# Retention in exact arithmetic

The retention of a run is the geometric mean of the retentions of its metrics.
It reports no gain for a machine that only got slower, whatever the order of the
results and whichever metrics are missing from some cycles.
-/

namespace Darcbench

/-- The first value is better than the second. -/
def Direction.Better (direction : Direction) (value other : Exact) : Prop :=
  match direction with
  | .higherIsBetter => other < value
  | .lowerIsBetter => value < other

namespace Sustained

/-! ## The windows -/

section Windows

variable {F : Type} [F64 F] {modules : List (ModuleResult F)}

/-- The windows at both ends do not overlap. -/
theorem lt_of_mem_windows
    (h : ¬ (completeCycles modules).length < minCyclesForRetention) {i j : ℕ}
    (hi : i ∈ opening modules) (hj : j ∈ closing modules) : i < j := by
  have hsorted := completeCycles_sorted modules
  rw [opening] at hi
  rw [closing] at hj
  obtain ⟨a, ha, rfl⟩ := List.mem_take_iff_getElem.mp hi
  obtain ⟨b, hb, rfl⟩ := List.mem_take_iff_getElem.mp hj
  rw [List.length_reverse] at hb
  rw [List.getElem_reverse]
  refine List.pairwise_iff_getElem.mp hsorted a _ _ _ ?_
  have hwindow : windowSize modules =
      max ((completeCycles modules).length / 3) 1 := rfl
  have hmin : minCyclesForRetention = 2 := rfl
  omega

/-- The cycles of both windows are complete. -/
theorem mem_completeCycles_of_mem_opening {i : ℕ}
    (hi : i ∈ opening modules) : i ∈ completeCycles modules :=
  List.mem_of_mem_take hi

theorem mem_completeCycles_of_mem_closing {j : ℕ}
    (hj : j ∈ closing modules) : j ∈ completeCycles modules :=
  List.mem_reverse.mp (List.mem_of_mem_take hj)

/-! ## The observations -/

/-- The metric of a scoreable result of a complete cycle. -/
structure Observed (modules : List (ModuleResult F)) (result : ModuleResult F)
    (metric : Metric F) : Prop where
  result_mem : result ∈ modules
  metric_mem : metric ∈ result.metrics
  scoreable : result.status.isScoreable = true
  complete : result.cycle ∈ completeCycles modules
  usable : Usable metric.value

/-- Where a point of a series comes from. -/
def ComesFrom (modules : List (ModuleResult F)) (key : String)
    (point : Observation F) : Prop :=
  ∃ result metric, Observed modules result metric ∧
    scopedKey result.module.id.asStr metric.key = key ∧
    point = ⟨result.cycle, metric.value, metric.direction⟩

theorem comesFrom_recordMetric {result : ModuleResult F} {metric : Metric F}
    (hobserved : Usable metric.value → Observed modules result metric)
    {series : Series F}
    (h : ∀ (key : String) points, series[key]? = some points →
      ∀ point ∈ points, ComesFrom modules key point) :
    ∀ (key : String) points,
      (recordMetric result series metric)[key]? = some points →
      ∀ point ∈ points, ComesFrom modules key point := by
  intro key points hpoints point hpoint
  rw [recordMetric] at hpoints
  split at hpoints
  · exact h key points hpoints point hpoint
  · next hguard =>
      rw [Bool.or_eq_true, not_or, Bool.not_eq_true', Bool.not_eq_false,
        decide_eq_true_eq] at hguard
      rw [Std.ExtTreeMap.getElem?_alter] at hpoints
      split at hpoints
      · next hkey =>
          obtain rfl := compare_eq_iff_eq.mp hkey
          obtain rfl := Option.some.inj hpoints
          rcases List.mem_append.mp hpoint with hpoint | hpoint
          · cases hold :
                series[scopedKey result.module.id.asStr metric.key]? with
            | none =>
                rw [hold] at hpoint
                exact absurd hpoint List.not_mem_nil
            | some old =>
                rw [hold] at hpoint
                exact h _ old hold point hpoint
          · exact ⟨result, metric, hobserved hguard, rfl,
              List.mem_singleton.mp hpoint⟩
      · exact h key points hpoints point hpoint

/-- Every point of a series is the value of a metric. -/
theorem comesFrom_of_mem_seriesOf {key : String}
    {points : List (Observation F)}
    (hpoints : (seriesOf modules)[key]? = some points)
    {point : Observation F} (hpoint : point ∈ points) :
    ComesFrom modules key point := by
  have hmetrics : ∀ (result : ModuleResult F) (metrics : List (Metric F))
      (series : Series F),
      (∀ metric ∈ metrics, Usable metric.value →
        Observed modules result metric) →
      (∀ (key : String) points, series[key]? = some points →
        ∀ point ∈ points, ComesFrom modules key point) →
      ∀ (key : String) points,
        (metrics.foldl (recordMetric result) series)[key]? = some points →
        ∀ point ∈ points, ComesFrom modules key point := by
    intro result metrics
    induction metrics with
    | nil => exact fun _ _ h => h
    | cons metric rest ih =>
        intro series hobserved h
        obtain ⟨hmetric, hrest⟩ := List.forall_mem_cons.mp hobserved
        exact ih _ hrest (comesFrom_recordMetric hmetric h)
  have hmodules : ∀ (rest : List (ModuleResult F)) (series : Series F),
      (∀ result ∈ rest, result ∈ modules) →
      (∀ (key : String) points, series[key]? = some points →
        ∀ point ∈ points, ComesFrom modules key point) →
      ∀ (key : String) points,
        (rest.foldl (recordModule (completeCycles modules)) series)[key]? =
          some points →
        ∀ point ∈ points, ComesFrom modules key point := by
    intro rest
    induction rest with
    | nil => exact fun _ _ h => h
    | cons result rest ih =>
        intro series hrest h
        obtain ⟨hresult, hrest⟩ := List.forall_mem_cons.mp hrest
        refine ih _ hrest ?_
        rw [recordModule]
        split
        · exact h
        · next hcycle =>
            split
            · exact h
            · next hstatus =>
                have hcomplete : result.cycle ∈ completeCycles modules := by
                  simpa using hcycle
                have hscoreable : result.status.isScoreable = true := by
                  simpa using hstatus
                exact hmetrics result result.metrics series
                  (fun metric hmetric husable =>
                    ⟨hresult, hmetric, hscoreable, hcomplete, husable⟩) h
  refine hmodules modules ∅ (fun _ h => h) ?_ key points hpoints point hpoint
  intro key points h
  rw [Std.ExtTreeMap.getElem?_empty] at h
  cases h

end Windows

/-! ## The medians -/

/-- What the numbers of a window have in common with their midpoints, their
median has as well. -/
theorem median_fin_of_forall {P : ℝ → Prop}
    (hP : ∀ x y, P x → P y → P ((x + y) / 2)) {values : List Exact}
    (hvalues : ∀ a ∈ values, ∃ x, P x ∧ a = Exact.fin x) {m : ℝ}
    (h : median values = some (.fin m)) : P m := by
  rw [median] at h
  split at h
  · cases h
  · obtain ⟨x, hx, hm⟩ := medianOfSorted_eq_fin hP
      (fun a ha => hvalues a (List.mem_mergeSort.mp ha)) h
    exact Exact.fin.inj hm ▸ hx

theorem ne_nil_of_median {values : List Exact} {m : Exact}
    (h : median values = some m) : values ≠ [] := by
  rintro rfl
  cases h

/-- The medians are ordered if the numbers of both windows are. -/
theorem median_le_median {low high : List Exact}
    (hlow : ∀ a ∈ low, ∃ x, a = Exact.fin x)
    (hhigh : ∀ b ∈ high, ∃ y, b = Exact.fin y)
    (hle : ∀ x y : ℝ, Exact.fin x ∈ low → Exact.fin y ∈ high → x ≤ y)
    {a b : ℝ} (ha : median low = some (.fin a))
    (hb : median high = some (.fin b)) : a ≤ b := by
  have hmiddle : ∀ y, Exact.fin y ∈ high → a ≤ y := by
    intro y hy
    refine median_fin_of_forall (P := (· ≤ y)) ?_ ?_ ha
    · intro u v hu hv
      linarith
    · intro value hvalue
      obtain ⟨x, rfl⟩ := hlow value hvalue
      exact ⟨x, hle x y hvalue hy, rfl⟩
  refine median_fin_of_forall (P := (a ≤ ·)) ?_ ?_ hb
  · intro u v hu hv
    linarith
  · intro value hvalue
    obtain ⟨y, rfl⟩ := hhigh value hvalue
    exact ⟨y, hmiddle y hvalue, rfl⟩

/-! ## Metrics that never get better -/

/-- Both are measurements of the same metric. -/
def SameMetric {F : Type} [F64 F] (result result' : ModuleResult F)
    (metric metric' : Metric F) : Prop :=
  result.module.id = result'.module.id ∧ metric.key = metric'.key

/-- Every metric has one direction, and no value of a complete cycle is better
than a value of an earlier one. -/
structure NeverBetter (modules : List (ModuleResult Exact)) : Prop where
  direction_eq : ∀ result ∈ modules, ∀ result' ∈ modules,
    ∀ metric ∈ result.metrics, ∀ metric' ∈ result'.metrics,
      SameMetric result result' metric metric' →
        metric.direction = metric'.direction
  not_better : ∀ {result result' : ModuleResult Exact}
    {metric metric' : Metric Exact}, Observed modules result metric →
      Observed modules result' metric' →
      SameMetric result result' metric metric' →
      result.cycle < result'.cycle →
        ¬ metric.direction.Better metric'.value metric.value

/-- All values of each metric are the same. -/
def Steady (modules : List (ModuleResult Exact)) : Prop :=
  ∀ {result result' : ModuleResult Exact} {metric metric' : Metric Exact},
    Observed modules result metric → Observed modules result' metric' →
    SameMetric result result' metric metric' → metric.value = metric'.value

section Series

variable {modules : List (ModuleResult Exact)} {key : String}
  {points : List (Observation Exact)} {window : List ℕ}

theorem exists_observed_of_mem_windowValues
    (hpoints : (seriesOf modules)[key]? = some points) {x : ℝ}
    (hx : Exact.fin x ∈ windowValues window points) :
    ∃ result metric, Observed modules result metric ∧
      scopedKey result.module.id.asStr metric.key = key ∧
      result.cycle ∈ window ∧ metric.value = .fin x := by
  obtain ⟨point, hpoint, hvalue⟩ := List.mem_map.mp hx
  obtain ⟨hpoint, hwindow⟩ := List.mem_filter.mp hpoint
  obtain ⟨result, metric, hobserved, hkey, rfl⟩ :=
    comesFrom_of_mem_seriesOf hpoints hpoint
  exact ⟨result, metric, hobserved, hkey, by simpa using hwindow, hvalue⟩

theorem exists_fin_of_mem_windowValues
    (hpoints : (seriesOf modules)[key]? = some points) {a : Exact}
    (ha : a ∈ windowValues window points) : ∃ x, a = Exact.fin x := by
  obtain ⟨point, hpoint, rfl⟩ := List.mem_map.mp ha
  obtain ⟨x, -, hx⟩ := exists_usable_eq
    ((isUsable_seriesOf modules key points hpoints).2 point
      (List.mem_filter.mp hpoint).1)
  exact ⟨x, hx⟩

/-- A metric has a retention of at most one if it never got better. -/
theorem retention_le_one (h : NeverBetter modules)
    (hcycles : ¬ (completeCycles modules).length < minCyclesForRetention)
    (hpoints : (seriesOf modules)[key]? = some points) {r : ℝ}
    (hr : retention? (opening modules) (closing modules) points =
      some (.fin r)) : r ≤ 1 := by
  obtain ⟨direction, x, y, hx, hy, hdirection, hfirst, hlast, hvalue⟩ :=
    exists_medians_of_retention? hpoints hr
  obtain rfl := Exact.fin.inj hvalue
  have hfixed : ∀ {result : ModuleResult Exact} {metric : Metric Exact},
      Observed modules result metric →
      scopedKey result.module.id.asStr metric.key = key →
      metric.direction = direction := by
    intro result metric hobserved hkey
    obtain ⟨point, hhead, rfl⟩ := Option.map_eq_some_iff.mp hdirection
    obtain ⟨result', metric', hobserved', hkey', rfl⟩ :=
      comesFrom_of_mem_seriesOf hpoints (List.mem_of_head? hhead)
    exact h.direction_eq _ hobserved.result_mem _ hobserved'.result_mem _
      hobserved.metric_mem _ hobserved'.metric_mem
      (scopedKey_inj (hkey.trans hkey'.symm))
  have hnever : ∀ u v : ℝ, Exact.fin u ∈ windowValues (opening modules) points →
      Exact.fin v ∈ windowValues (closing modules) points →
      ¬ direction.Better (.fin v) (.fin u) := by
    intro u v hu hv
    obtain ⟨result, metric, hobserved, hkey, hwindow, hmetric⟩ :=
      exists_observed_of_mem_windowValues hpoints hu
    obtain ⟨result', metric', hobserved', hkey', hwindow', hmetric'⟩ :=
      exists_observed_of_mem_windowValues hpoints hv
    have hbetter := h.not_better hobserved hobserved'
      (scopedKey_inj (hkey.trans hkey'.symm))
      (lt_of_mem_windows hcycles hwindow hwindow')
    rwa [hfixed hobserved hkey, hmetric, hmetric'] at hbetter
  have hopening : ∀ a ∈ windowValues (opening modules) points,
      ∃ u, a = Exact.fin u :=
    fun a ha => exists_fin_of_mem_windowValues hpoints ha
  have hclosing : ∀ a ∈ windowValues (closing modules) points,
      ∃ v, a = Exact.fin v :=
    fun a ha => exists_fin_of_mem_windowValues hpoints ha
  cases direction with
  | higherIsBetter =>
      have hle : y ≤ x := median_le_median hclosing hopening
        (fun v u hv hu => not_lt.mp (hnever u v hu hv)) hlast hfirst
      exact (div_le_one hx).mpr hle
  | lowerIsBetter =>
      have hle : x ≤ y := median_le_median hopening hclosing
        (fun u v hu hv => not_lt.mp (hnever u v hu hv)) hfirst hlast
      exact (div_le_one hy).mpr hle

/-- A metric that never changed has retained everything. -/
theorem retention_eq_one (h : Steady modules)
    (hpoints : (seriesOf modules)[key]? = some points) {first last : List ℕ}
    {r : ℝ} (hr : retention? first last points = some (.fin r)) : r = 1 := by
  obtain ⟨direction, x, y, hx, hy, -, hfirst, hlast, hvalue⟩ :=
    exists_medians_of_retention? hpoints hr
  obtain rfl := Exact.fin.inj hvalue
  obtain ⟨a, ha⟩ := List.exists_mem_of_ne_nil _ (ne_nil_of_median hfirst)
  obtain ⟨c, rfl⟩ := exists_fin_of_mem_windowValues hpoints ha
  obtain ⟨result, metric, hobserved, hkey, -, hmetric⟩ :=
    exists_observed_of_mem_windowValues hpoints ha
  have hsame : ∀ (window : List ℕ), ∀ b ∈ windowValues window points,
      ∃ v, v = c ∧ b = Exact.fin v := by
    intro window b hb
    obtain ⟨v, rfl⟩ := exists_fin_of_mem_windowValues hpoints hb
    obtain ⟨result', metric', hobserved', hkey', -, hmetric'⟩ :=
      exists_observed_of_mem_windowValues hpoints hb
    have hequal := h hobserved hobserved'
      (scopedKey_inj (hkey.trans hkey'.symm))
    rw [hmetric, hmetric'] at hequal
    exact ⟨v, (Exact.fin.inj hequal).symm, rfl⟩
  have hmiddle : ∀ u v : ℝ, u = c → v = c → (u + v) / 2 = c := by
    rintro u v rfl rfl
    ring
  obtain rfl := median_fin_of_forall hmiddle (hsame first) hfirst
  obtain rfl := median_fin_of_forall hmiddle (hsame last) hlast
  cases direction <;> exact div_self hx.ne'

end Series

end Sustained

/-! ## The outcome -/

/-- A number between the least and the greatest retention of a metric, from
which the score is computed. -/
structure SustainedOutcome.HasRetention (outcome : SustainedOutcome Exact)
    (r : ℝ) : Prop where
  retention : outcome.retention = .fin r
  score : outcome.score = .fin (1000 * min r 1)
  pos : 0 < r
  numbers : ∀ (key : String) (value : Exact),
    outcome.byMetric[key]? = some value → ∃ x, 0 < x ∧ value = .fin x
  least : ∃ (key : String) (x : ℝ), outcome.byMetric[key]? = some (.fin x) ∧
    (∀ (key' : String) (y : ℝ),
      outcome.byMetric[key']? = some (.fin y) → x ≤ y) ∧ x ≤ r
  greatest : ∃ (key : String) (x : ℝ),
    outcome.byMetric[key]? = some (.fin x) ∧
      (∀ (key' : String) (y : ℝ),
        outcome.byMetric[key']? = some (.fin y) → y ≤ x) ∧ r ≤ x

/-- The score is positive and at most that of the reference machine. -/
theorem SustainedOutcome.HasRetention.score_bounds
    {outcome : SustainedOutcome Exact} {r : ℝ} (h : outcome.HasRetention r) :
    ∃ x, outcome.score = .fin x ∧ 0 < x ∧ x ≤ 1000 := by
  refine ⟨_, h.score, ?_, ?_⟩
  · have hmin : 0 < min r 1 := lt_min h.pos one_pos
    positivity
  · linarith [min_le_right r 1]

namespace Sustained

/-- The values of a map, as positive numbers of equal weight. -/
theorem exists_items_toList {byMetric : BTreeMap String Exact}
    (hvalues : ∀ (key : String) (value : Exact),
      byMetric[key]? = some value → ∃ r, 0 < r ∧ value = .fin r) :
    ∃ items : List Weighted, byMetric.toList.map Prod.snd =
      items.map fun item => (.fin item.value : Exact) := by
  have hrange : byMetric.toList.map Prod.snd ∈
      Set.range
        (List.map fun item : Weighted => (.fin item.value : Exact)) := by
    rw [Set.range_list_map]
    intro value hvalue
    obtain ⟨entry, hentry, rfl⟩ := List.mem_map.mp hvalue
    obtain ⟨r, hr, hfin⟩ :=
      hvalues entry.1 entry.2 (BTreeMap.mem_toList_iff.mp hentry)
    exact ⟨⟨r, 1, hr, one_pos⟩, hfin.symm⟩
  obtain ⟨items, hitems⟩ := hrange
  exact ⟨items, hitems.symm⟩

/-- The number computed from the logarithms of the values. -/
theorem exp_sum_ln_map_fin {items : List Weighted} (hne : items ≠ []) :
    F64.exp (F64.sum ((items.map fun item => (.fin item.value : Exact)).map
      F64.ln) / F64.ofNat items.length) =
        .fin (Weighted.mean (items.map Weighted.unit)) := by
  have hmean := geometricMean_map_fin hne
  rw [geometricMean] at hmean
  split at hmean
  · cases hmean
  · rw [List.length_map] at hmean
    exact Option.some.inj hmean

theorem hasRetention_of_outcomeOf {byMetric : BTreeMap String Exact}
    (hvalues : ∀ (key : String) (value : Exact),
      byMetric[key]? = some value → ∃ r, 0 < r ∧ value = .fin r)
    {cycles : List ℕ} {outcome : SustainedOutcome Exact}
    (h : outcomeOf cycles byMetric = some outcome) :
    ∃ r, outcome.HasRetention r := by
  obtain ⟨items, hitems⟩ := exists_items_toList hvalues
  have hbyMetric := byMetric_of_outcomeOf h
  have hmem : ∀ x : ℝ, (∃ key : String, byMetric[key]? = some (.fin x)) ↔
      ∃ item ∈ items, item.value = x := by
    intro x
    have hlist : (∃ key : String, byMetric[key]? = some (.fin x)) ↔
        Exact.fin x ∈ byMetric.toList.map Prod.snd := by
      rw [List.mem_map]
      constructor
      · rintro ⟨key, hkey⟩
        exact ⟨(key, .fin x), BTreeMap.mem_toList_iff.mpr hkey, rfl⟩
      · rintro ⟨entry, hentry, hvalue⟩
        exact ⟨entry.1, hvalue ▸ BTreeMap.mem_toList_iff.mp hentry⟩
    rw [hlist, hitems, List.mem_map]
    simp only [Exact.fin.injEq]
  rw [outcomeOf] at h
  split at h
  · cases h
  · next hempty =>
      have hne : items ≠ [] := by
        rintro rfl
        rw [List.map_nil, List.map_eq_nil_iff] at hitems
        refine hempty ?_
        rw [Std.ExtTreeMap.isEmpty_eq_size_beq_zero,
          ← Std.ExtTreeMap.length_toList, hitems]
        rfl
      have hlogs : byMetric.toList.map (fun entry => F64.ln entry.2) =
          (items.map fun item => (.fin item.value : Exact)).map F64.ln := by
        rw [← hitems, List.map_map]
        rfl
      have hsize : byMetric.size = items.length := by
        have hlength := congrArg List.length hitems
        rwa [List.length_map, List.length_map,
          Std.ExtTreeMap.length_toList] at hlength
      dsimp only at h
      rw [hlogs, hsize, exp_sum_ln_map_fin hne] at h
      set r := Weighted.mean (items.map Weighted.unit) with hr
      rw [Exact.isFinite_fin, Bool.not_true, if_neg Bool.false_ne_true] at h
      have hunit : items.map Weighted.unit ≠ [] := by
        rwa [ne_eq, List.map_eq_nil_iff]
      obtain ⟨low, hlow, -⟩ := exists_isWeakest hne
      obtain ⟨top, htop, hle⟩ := Finset.exists_max_image
        (items.map (·.value)).toFinset id (by simpa using hne)
      have htop : ∃ item ∈ items, item.value = top := by simpa using htop
      have hle : ∀ item ∈ items, item.value ≤ top := by
        intro item hitem
        exact hle item.value (by simpa using ⟨item, hitem, rfl⟩)
      obtain ⟨lowKey, hlowKey⟩ := (hmem low).mpr hlow.mem
      obtain ⟨topKey, htopKey⟩ := (hmem top).mpr htop
      refine ⟨r, ?_⟩
      exact
        { retention := Option.some.inj h ▸ rfl
          score := by
            rw [← Option.some.inj h]
            show F64.min (Exact.fin r) 1.0 * referenceAnchor = _
            rw [Exact.one_eq, Exact.min_fin, referenceAnchor_eq,
              Exact.fin_mul_fin, mul_comm]
          pos := Weighted.mean_pos _
          numbers := by rwa [hbyMetric]
          least := by
            rw [hbyMetric]
            refine ⟨lowKey, low, hlowKey, ?_, ?_⟩
            · intro key y hy
              obtain ⟨item, hitem, rfl⟩ := (hmem y).mp ⟨key, hy⟩
              exact hlow.le item hitem
            · refine Weighted.le_mean hlow.pos hunit fun item hitem => ?_
              obtain ⟨other, hother, rfl⟩ := List.mem_map.mp hitem
              exact hlow.le other hother
          greatest := by
            rw [hbyMetric]
            refine ⟨topKey, top, htopKey, ?_, ?_⟩
            · intro key y hy
              obtain ⟨item, hitem, rfl⟩ := (hmem y).mp ⟨key, hy⟩
              exact hle item hitem
            · refine Weighted.mean_le hunit fun item hitem => ?_
              obtain ⟨other, hother, rfl⟩ := List.mem_map.mp hitem
              exact hle other hother }

/-- Where the retention of a metric comes from. -/
theorem exists_points_of_byMetric {modules : List (ModuleResult Exact)}
    {outcome : SustainedOutcome Exact} (h : analyse modules = some outcome) :
    ¬ (completeCycles modules).length < minCyclesForRetention ∧
      (∃ r, outcome.HasRetention r) ∧
      ∀ (key : String) (value : Exact), outcome.byMetric[key]? = some value →
        ∃ points, (seriesOf modules)[key]? = some points ∧
          retention? (opening modules) (closing modules) points =
            some value := by
  by_cases hcycles : (completeCycles modules).length < minCyclesForRetention
  · rw [analyse_of_lt hcycles] at h
    cases h
  · obtain ⟨result, hresult, hget⟩ := exists_retainedByMetric_seriesOf modules
    rw [analyse_of_not_lt hcycles, hresult, Option.bind_some] at h
    have hpoints : ∀ (key : String) (value : Exact),
        result[key]? = some value →
        ∃ points, (seriesOf modules)[key]? = some points ∧
          retention? (opening modules) (closing modules) points =
            some value := by
      intro key value hvalue
      rw [hget] at hvalue
      exact Option.bind_eq_some_iff.mp hvalue
    have hbyMetric := byMetric_of_outcomeOf h
    refine ⟨hcycles, hasRetention_of_outcomeOf ?_ h, ?_⟩
    · intro key value hvalue
      obtain ⟨points, hseries, hretention⟩ := hpoints key value hvalue
      exact exists_pos_of_retention? hseries hretention
    · rwa [hbyMetric]

/-- A machine that only got slower has not gained, and one that did not change
has retained everything. -/
theorem retention_reports_no_gain {modules : List (ModuleResult Exact)}
    {outcome : SustainedOutcome Exact} (h : analyse modules = some outcome) :
    ∃ r, outcome.HasRetention r ∧
      (∃ x, outcome.score = .fin x ∧ 0 < x ∧ x ≤ 1000) ∧
      (NeverBetter modules → r ≤ 1 ∧ outcome.score = .fin (1000 * r) ∧
        ∀ (key : String) (x : ℝ),
          outcome.byMetric[key]? = some (.fin x) → x ≤ 1) ∧
      (Steady modules → r = 1) := by
  obtain ⟨hcycles, ⟨r, hr⟩, hpoints⟩ := exists_points_of_byMetric h
  refine ⟨r, hr, hr.score_bounds, fun hnever => ?_, fun hsteady => ?_⟩
  · have hle : ∀ (key : String) (x : ℝ),
        outcome.byMetric[key]? = some (.fin x) → x ≤ 1 := by
      intro key x hx
      obtain ⟨points, hseries, hretention⟩ := hpoints key _ hx
      exact retention_le_one hnever hcycles hseries hretention
    obtain ⟨key, x, hx, -, hrx⟩ := hr.greatest
    have hone : r ≤ 1 := hrx.trans (hle key x hx)
    refine ⟨hone, ?_, hle⟩
    rw [hr.score, min_eq_left hone]
  · have heq : ∀ (key : String) (x : ℝ),
        outcome.byMetric[key]? = some (.fin x) → x = 1 := by
      intro key x hx
      obtain ⟨points, hseries, hretention⟩ := hpoints key _ hx
      exact retention_eq_one hsteady hseries hretention
    obtain ⟨key, x, hx, -, hxr⟩ := hr.least
    obtain ⟨key', x', hx', -, hrx⟩ := hr.greatest
    rw [heq key x hx] at hxr
    rw [heq key' x' hx'] at hrx
    exact le_antisymm hrx hxr

/-- A latency that doubled from the first pass to the second never got
better. -/
theorem neverBetter_twoPassRun : NeverBetter (twoPassRun .lowerIsBetter) where
  direction_eq := by
    have hdirection : ∀ result ∈ twoPassRun .lowerIsBetter,
        ∀ metric ∈ result.metrics, metric.direction = .lowerIsBetter := by
      simp [twoPassRun, oneMetricResult]
    intro result hresult result' hresult' metric hmetric metric' hmetric' _
    rw [hdirection result hresult metric hmetric,
      hdirection result' hresult' metric' hmetric']
  not_better := by
    have hvalue : ∀ result ∈ twoPassRun .lowerIsBetter,
        ∀ metric ∈ result.metrics, metric.direction = .lowerIsBetter ∧
          metric.value = .fin (result.cycle + 1) := by
      norm_num [twoPassRun, oneMetricResult, bareMetric]
    intro result result' metric metric' h h' _ hlt
    obtain ⟨hdirection, hmetric⟩ := hvalue _ h.result_mem _ h.metric_mem
    obtain ⟨-, hmetric'⟩ := hvalue _ h'.result_mem _ h'.metric_mem
    rw [hdirection, hmetric, hmetric']
    have hcast : (result.cycle : ℝ) < result'.cycle := by exact_mod_cast hlt
    have hle : (result.cycle : ℝ) + 1 ≤ result'.cycle + 1 := by linarith
    intro hbetter
    exact absurd ((Exact.fin_lt_fin _ _).mp hbetter) (not_lt.mpr hle)

theorem exists_analyse_twoPassRun :
    ∃ outcome, analyse (twoPassRun .lowerIsBetter) = some outcome := by
  have hcycles := completeCycles_twoPassRun .lowerIsBetter
  have hlength : ¬ (completeCycles (twoPassRun .lowerIsBetter)).length <
      minCyclesForRetention := by
    rw [hcycles]
    decide
  obtain ⟨result, hresult, hget⟩ :=
    exists_retainedByMetric_seriesOf (twoPassRun .lowerIsBetter)
  have hvalues : ∀ (key : String) (value : Exact),
      result[key]? = some value → ∃ r, 0 < r ∧ value = .fin r := by
    intro key value hvalue
    rw [hget] at hvalue
    obtain ⟨points, hpoints, hretention⟩ := Option.bind_eq_some_iff.mp hvalue
    exact exists_pos_of_retention? hpoints hretention
  have hmedian : ∀ a : Exact, median [a] = some a := by
    intro a
    simp [median, F64.sortTotal, F64.medianOfSorted]
  have hkey : result["cpu.mixed/crypto_sha256.single"]? =
      some (.fin (1 / 2)) := by
    rw [hget, seriesOf_twoPassRun, Option.bind_some, opening, closing,
      windowSize, hcycles]
    let points : List (Observation Exact) :=
      [⟨0, .fin 1, .lowerIsBetter⟩, ⟨1, .fin 2, .lowerIsBetter⟩]
    have hdirection : leadingDirection points = some .lowerIsBetter := rfl
    have hfirst : median (windowValues [0] points) = some (.fin 1) :=
      hmedian (.fin 1)
    have hlast : median (windowValues [1] points) = some (.fin 2) :=
      hmedian (.fin 2)
    exact retention?_eq one_pos two_pos hdirection hfirst hlast
  obtain ⟨outcome, houtcome⟩ := exists_outcomeOf_eq_some hvalues hkey
    (completeCycles (twoPassRun .lowerIsBetter))
  exact ⟨outcome, by rw [analyse_of_not_lt hlength, hresult]; exact houtcome⟩

theorem retention_reports_no_gain_twoPassRun :
    ∃ outcome r, analyse (twoPassRun .lowerIsBetter) = some outcome ∧
      outcome.HasRetention r ∧ r ≤ 1 := by
  obtain ⟨outcome, houtcome⟩ := exists_analyse_twoPassRun
  obtain ⟨r, hr, -, hnever, -⟩ := retention_reports_no_gain houtcome
  exact ⟨outcome, r, houtcome, hr, (hnever neverBetter_twoPassRun).1⟩

end Sustained

end Darcbench
