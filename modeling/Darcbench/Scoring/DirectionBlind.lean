import Darcbench.Scoring.Remeasured
import Darcbench.Scoring.Series
import Darcbench.Scoring.Stability

/-!
# What a card takes from the direction of a metric

The direction that a bundle states for a metric decides nothing but the
retention of the run: normalisation reads the direction of the anchor, but the
series of a cycled run are read by the direction of their first observation.
The runs whose cards nevertheless agree are described exactly.
-/

namespace Darcbench

/-- Two runs that differ in the directions of their metrics only. -/
def Redirected {F : Type} [F64 F] (modules modules' : List (ModuleResult F)) :
    Prop :=
  Remeasured
    (fun _ metric metric' =>
      ∃ direction, metric' = { metric with direction := direction })
    modules modules'

namespace Sustained

/-- Two observations of the same cycle and value. -/
structure SameObservation {F : Type} (p q : Observation F) : Prop where
  cycle : p.cycle = q.cycle
  value : p.value = q.value

/-- The first observation of a series decides its direction. -/
def leadingDirection {F : Type} (points : List (Observation F)) :
    Option Direction :=
  points.head?.map (·.direction)

end Sustained

open Sustained (SameObservation leadingDirection seriesOf opening closing
  windowValues retention? retainedOf)

/-- The directions of two runs do not matter: neither run cycled, or in every
series measured in both windows the leading directions agree or the metric did
not change. -/
def DirectionIrrelevant {F : Type} [F64 F]
    (modules modules' : List (ModuleResult F)) : Prop :=
  (Sustained.completeCycles modules).length < Sustained.minCyclesForRetention ∨
    ∀ (key : String) (points points' : List (Sustained.Observation F)),
      (seriesOf modules)[key]? = some points →
      (seriesOf modules')[key]? = some points' →
        leadingDirection points = leadingDirection points' ∨
          ∀ first last,
            Sustained.median (windowValues (opening modules) points) =
              some first →
            Sustained.median (windowValues (closing modules) points) =
              some last →
            first = last

section Blind

variable {F : Type} [F64 F] {modules modules' : List (ModuleResult F)}

/-! ## Everything but the retention -/

theorem Redirected.tally_eq
    (h : Redirected modules modules') (model : ScoringModel F) :
    model.tally modules = model.tally modules' := by
  rw [ScoringModel.tally, ScoringModel.tally, ← Remeasured.scoringCycle_eq h]
  refine List.rel_foldl (P := Eq) ?_ rfl h
  rintro tally _ rfl module _ ⟨metrics, rfl, hmetrics⟩
  have hfold : module.metrics.foldl
      (Tally.recordMetric model module.module.id.asStr) tally =
      metrics.foldl
        (Tally.recordMetric model module.module.id.asStr) tally := by
    refine List.rel_foldl (P := Eq) ?_ rfl hmetrics
    rintro tally _ rfl metric _ ⟨direction, rfl⟩
    rfl
  rw [Tally.recordModule, Tally.recordModule, hfold]

theorem Redirected.scoreRun_eq_iff
    (h : Redirected modules modules') (model : ScoringModel F)
    (profile : Profile) :
    model.scoreRun profile modules = model.scoreRun profile modules' ↔
      Sustained.analyse modules = Sustained.analyse modules' := by
  constructor
  · exact fun heq => congrArg ScoreCard.sustained heq
  · intro heq
    rw [ScoringModel.scoreRun, ScoringModel.scoreRun, heq, h.tally_eq model]

/-! ## The series of redirected runs -/

theorem Redirected.seriesOf_rel (h : Redirected modules modules')
    (key : String) :
    Option.Rel (List.Forall₂ SameObservation) (seriesOf modules)[key]?
      (seriesOf modules')[key]? := by
  let P : Sustained.Series F → Sustained.Series F → Prop :=
    fun series series' => ∀ key : String,
      Option.Rel (List.Forall₂ SameObservation) series[key]? series'[key]?
  have hmetric : ∀ (module : ModuleResult F) (metric metric' : Metric F)
      (series series' : Sustained.Series F),
      (∃ direction, metric' = { metric with direction := direction }) →
      P series series' →
      P (Sustained.recordMetric module series metric)
        (Sustained.recordMetric module series' metric') := by
    rintro module metric _ series series' ⟨direction, rfl⟩ hseries key
    rw [Sustained.recordMetric, Sustained.recordMetric]
    split
    · exact hseries key
    · rw [Std.ExtTreeMap.getElem?_alter, Std.ExtTreeMap.getElem?_alter]
      split
      · have hpoints :=
          hseries (scopedKey module.module.id.asStr metric.key)
        refine Option.Rel.some (List.rel_append ?_
          (List.Forall₂.cons ⟨rfl, rfl⟩ List.Forall₂.nil))
        revert hpoints
        dsimp only
        generalize series[scopedKey module.module.id.asStr metric.key]? = points
        generalize series'[scopedKey module.module.id.asStr metric.key]? =
          points'
        rintro (hpoints | _)
        · exact hpoints
        · exact List.Forall₂.nil
      · exact hseries key
  have hmodule : ∀ (eligible : List ℕ) (module : ModuleResult F)
      (metrics : List (Metric F)) (series series' : Sustained.Series F),
      List.Forall₂ (fun metric metric' =>
        ∃ direction, metric' = { metric with direction := direction })
        module.metrics metrics →
      P series series' →
      P (Sustained.recordModule eligible series module)
        (Sustained.recordModule eligible series'
          { module with metrics := metrics }) := by
    intro eligible module metrics series series' hmetrics hseries
    rw [Sustained.recordModule, Sustained.recordModule]
    split
    · exact hseries
    · split
      · exact hseries
      · refine List.rel_foldl (P := P) ?_ hseries hmetrics
        intro series series' hseries metric metric' hdirection
        exact hmetric module metric metric' series series' hdirection hseries
  have hempty : P ∅ ∅ := fun key => by
    rw [Std.ExtTreeMap.getElem?_empty]
    exact Option.Rel.none
  rw [seriesOf, seriesOf, ← Remeasured.completeCycles_eq h]
  refine List.rel_foldl (P := P) ?_ hempty h key
  rintro series series' hseries module _ ⟨metrics, rfl, hmetrics⟩
  exact hmodule _ module metrics series series' hmetrics hseries

omit [F64 F] in
theorem windowValues_eq
    {points points' : List (Sustained.Observation F)}
    (h : List.Forall₂ SameObservation points points') (window : List ℕ) :
    windowValues window points = windowValues window points' := by
  have hvalues : List.Forall₂ Eq (windowValues window points)
      (windowValues window points') := by
    refine List.rel_map (fun {_ _} hpoint => hpoint.value)
      (List.rel_filter (fun {p q} hpoint => ?_) h)
    simp only [hpoint.cycle]
  rwa [List.forall₂_eq_eq_eq] at hvalues

/-- Observations of the same values are retained alike if their direction is
the same or does not matter. -/
theorem retainedOf_congr
    {points points' : List (Sustained.Observation F)}
    (h : List.Forall₂ SameObservation points points') {first last : List ℕ}
    (hirrelevant : leadingDirection points = leadingDirection points' ∨
      ∀ a b, Sustained.median (windowValues first points) = some a →
        Sustained.median (windowValues last points) = some b → a = b) :
    retainedOf first last points = retainedOf first last points' := by
  rw [retainedOf, retainedOf, ← windowValues_eq h, ← windowValues_eq h]
  rcases hirrelevant with hdirection | hmedian
  · rw [leadingDirection, leadingDirection] at hdirection
    rw [hdirection]
  · cases h with
    | nil => rfl
    | @cons p q ps qs hpoint hrest =>
        rw [List.head?_cons, List.head?_cons, Option.map_some, Option.map_some]
        simp only [Option.bind_eq_bind, Option.bind_some]
        split
        · next a b ha hb =>
            obtain rfl := hmedian a b ha hb
            have hretained : Sustained.retained p.direction a a =
                Sustained.retained q.direction a a := by
              cases p.direction <;> cases q.direction <;> rfl
            rw [hretained]
        · rfl

theorem Redirected.windows_eq (h : Redirected modules modules') :
    opening modules = opening modules' ∧ closing modules = closing modules' := by
  have hcycles := Remeasured.completeCycles_eq h
  rw [opening, closing, opening, closing, Sustained.windowSize,
    Sustained.windowSize, hcycles]
  exact ⟨rfl, rfl⟩

/-- Runs whose series are retained alike have the same retention. -/
theorem Redirected.analyse_eq
    (h : Redirected modules modules')
    (hretention : ∀ key : String,
      ((seriesOf modules)[key]?).bind
          (retention? (opening modules) (closing modules)) =
        ((seriesOf modules')[key]?).bind
          (retention? (opening modules) (closing modules))) :
    Sustained.analyse modules = Sustained.analyse modules' := by
  have hcycles := Remeasured.completeCycles_eq h
  by_cases hshort : (Sustained.completeCycles modules).length <
      Sustained.minCyclesForRetention
  · rw [Sustained.analyse_of_lt hshort, Sustained.analyse_of_lt
      (hcycles ▸ hshort)]
  · obtain ⟨hopening, hclosing⟩ := h.windows_eq
    obtain ⟨result, hresult, hget⟩ :=
      Sustained.exists_retainedByMetric_seriesOf modules
    obtain ⟨result', hresult', hget'⟩ :=
      Sustained.exists_retainedByMetric_seriesOf modules'
    have hequal : result = result' := by
      apply Std.ExtTreeMap.ext_getElem?
      intro key
      rw [hget, hget', hretention, hopening, hclosing]
    rw [Sustained.analyse_of_not_lt hshort,
      Sustained.analyse_of_not_lt (hcycles ▸ hshort), hresult, hresult',
      hequal, hcycles]

/-- Directions that do not matter leave the whole card unchanged. -/
theorem Redirected.scoreRun_eq
    (h : Redirected modules modules')
    (hirrelevant : DirectionIrrelevant modules modules')
    (model : ScoringModel F) (profile : Profile) :
    model.scoreRun profile modules = model.scoreRun profile modules' := by
  rw [h.scoreRun_eq_iff]
  rcases hirrelevant with hshort | hseries
  · rw [Sustained.analyse_of_lt hshort, Sustained.analyse_of_lt
      (Remeasured.completeCycles_eq h ▸ hshort)]
  · refine h.analyse_eq fun key => ?_
    have hrel := h.seriesOf_rel key
    have hkey := hseries key
    revert hrel hkey
    generalize (seriesOf modules)[key]? = points
    generalize (seriesOf modules')[key]? = points'
    rintro (hpoints | _) hkey
    · rw [Option.bind_some, Option.bind_some, retention?, retention?,
        retainedOf_congr hpoints (hkey _ _ rfl rfl)]
    · rfl

end Blind

/-! ## Exact arithmetic -/

theorem Sustained.exists_usable_eq {value : Exact} (h : Sustained.Usable value) :
    ∃ x, 0 < x ∧ value = .fin x :=
  (Exact.exists_pos_iff value).mp h

/-- The retention of a series that was measured in both windows. -/
theorem retention?_eq
    {points : List (Sustained.Observation Exact)} {first last : List ℕ}
    {direction : Direction} {x y : ℝ} (hx : 0 < x) (hy : 0 < y)
    (hdirection : leadingDirection points = some direction)
    (hfirst : Sustained.median (windowValues first points) = some (.fin x))
    (hlast : Sustained.median (windowValues last points) = some (.fin y)) :
    retention? first last points = some (.fin (direction.ratio y x)) := by
  have hratio := direction.ratio_pos hy hx
  have hretained : Sustained.retained direction (Exact.fin x) (Exact.fin y) =
      .fin (direction.ratio y x) := by
    cases direction with
    | higherIsBetter => exact Exact.fin_div_fin _ hx.ne'
    | lowerIsBetter => exact Exact.fin_div_fin _ hy.ne'
  have hpositive : ¬ (Exact.fin x ≤ 0.0 ∨ Exact.fin y ≤ 0.0) := by
    rw [Exact.zero_eq, Exact.fin_le_fin, Exact.fin_le_fin, not_or, not_le,
      not_le]
    exact ⟨hx, hy⟩
  have husable : F64.isFinite (Exact.fin (direction.ratio y x)) = true ∧
      (0.0 : Exact) < .fin (direction.ratio y x) := by
    rw [Exact.zero_eq, Exact.fin_lt_fin]
    exact ⟨rfl, hratio⟩
  rw [leadingDirection] at hdirection
  rw [retention?, retainedOf, hdirection, hfirst, hlast]
  simp only [Option.bind_eq_bind, Option.bind_some]
  rw [if_neg hpositive, hretained, if_pos husable]
  rfl

theorem Direction.ratio_eq_ratio_iff
    {d d' : Direction} {x y : ℝ} (hx : 0 < x) (hy : 0 < y) :
    d.ratio y x = d'.ratio y x ↔ d = d' ∨ x = y := by
  have hcross : y / x = x / y ↔ x = y := by
    rw [div_eq_div_iff hx.ne' hy.ne', ← sq, ← sq,
      sq_eq_sq₀ hy.le hx.le, eq_comm]
  cases d <;> cases d' <;>
    simp [Direction.ratio, hcross, eq_comm (a := x / y)]

/-- The median of the values of a window is a positive number. -/
theorem exists_median_eq
    {modules : List (ModuleResult Exact)} {key : String}
    {points : List (Sustained.Observation Exact)}
    (hpoints : (seriesOf modules)[key]? = some points) {window : List ℕ}
    {middle : Exact}
    (h : Sustained.median (windowValues window points) = some middle) :
    ∃ x, 0 < x ∧ middle = .fin x := by
  refine Sustained.median_eq_fin ?_ h
  intro a ha
  obtain ⟨point, hpoint, rfl⟩ := List.mem_map.mp ha
  exact Sustained.exists_usable_eq
    ((Sustained.isUsable_seriesOf modules key points hpoints).2 point
      (List.mem_filter.mp hpoint).1)

/-- A series with a retention was measured in both windows. -/
theorem exists_medians_of_retention?
    {modules : List (ModuleResult Exact)} {key : String}
    {points : List (Sustained.Observation Exact)}
    (hpoints : (seriesOf modules)[key]? = some points) {first last : List ℕ}
    {value : Exact} (h : retention? first last points = some value) :
    ∃ direction x y, 0 < x ∧ 0 < y ∧ leadingDirection points = some direction ∧
      Sustained.median (windowValues first points) = some (.fin x) ∧
      Sustained.median (windowValues last points) = some (.fin y) ∧
      value = .fin (direction.ratio y x) := by
  have hne := (Sustained.isUsable_seriesOf modules key points hpoints).1
  obtain ⟨point, rest, rfl⟩ := List.exists_cons_of_ne_nil hne
  cases hfirst : Sustained.median (windowValues first (point :: rest)) with
  | none =>
      rw [retention?, retainedOf, hfirst] at h
      exact absurd h (by simp)
  | some a =>
      cases hlast : Sustained.median (windowValues last (point :: rest)) with
      | none =>
          rw [retention?, retainedOf, hfirst, hlast] at h
          exact absurd h (by simp)
      | some b =>
          obtain ⟨x, hx, rfl⟩ := exists_median_eq hpoints hfirst
          obtain ⟨y, hy, rfl⟩ := exists_median_eq hpoints hlast
          rw [retention?_eq hx hy rfl hfirst hlast] at h
          exact ⟨_, x, y, hx, hy, rfl, rfl, rfl, (Option.some.inj h).symm⟩

/-- A retention is a positive number. -/
theorem exists_pos_of_retention?
    {modules : List (ModuleResult Exact)} {key : String}
    {points : List (Sustained.Observation Exact)}
    (hpoints : (seriesOf modules)[key]? = some points) {first last : List ℕ}
    {value : Exact} (h : retention? first last points = some value) :
    ∃ r, 0 < r ∧ value = .fin r := by
  obtain ⟨direction, x, y, hx, hy, -, -, -, hvalue⟩ :=
    exists_medians_of_retention? hpoints h
  exact ⟨_, direction.ratio_pos hy hx, hvalue⟩

/-- A run with the retention of some metric has an outcome. -/
theorem exists_outcomeOf_eq_some
    {byMetric : BTreeMap String Exact}
    (hvalues : ∀ (key : String) (value : Exact),
      byMetric[key]? = some value → ∃ r, 0 < r ∧ value = .fin r)
    {key : String} {value : Exact} (hkey : byMetric[key]? = some value)
    (cycles : List ℕ) :
    ∃ outcome, Sustained.outcomeOf cycles byMetric = some outcome := by
  have hempty : byMetric.isEmpty = false := by
    rw [Std.ExtTreeMap.isEmpty_eq_false_iff]
    rintro rfl
    rw [Std.ExtTreeMap.getElem?_empty] at hkey
    exact absurd hkey (by simp)
  have hsize : (byMetric.size : ℝ) ≠ 0 := by
    rw [Nat.cast_ne_zero]
    intro hzero
    rw [Std.ExtTreeMap.isEmpty_eq_size_beq_zero, hzero] at hempty
    exact absurd hempty (by simp)
  have hlogs : ∀ a ∈ byMetric.toList.map fun entry => F64.ln entry.2,
      ∃ x, a = Exact.fin x := by
    intro a ha
    obtain ⟨entry, hentry, rfl⟩ := List.mem_map.mp ha
    obtain ⟨r, hr, hvalue⟩ :=
      hvalues entry.1 entry.2 (BTreeMap.mem_toList_iff.mp hentry)
    exact ⟨_, hvalue ▸ Exact.ln_fin hr⟩
  obtain ⟨x, hsum⟩ := Exact.exists_sum_eq_fin hlogs
  rw [Sustained.outcomeOf, hempty]
  simp only [Bool.false_eq_true, if_false, hsum, Exact.ofNat_eq,
    Exact.fin_div_fin _ hsize, Exact.exp_fin, Exact.isFinite_fin,
    Bool.not_true]
  exact ⟨_, rfl⟩

/-- In exact arithmetic the card is the same only if the directions do not
matter. -/
theorem Redirected.directionIrrelevant
    {modules modules' : List (ModuleResult Exact)}
    (h : Redirected modules modules')
    (heq : Sustained.analyse modules = Sustained.analyse modules') :
    DirectionIrrelevant modules modules' := by
  have hcycles := Remeasured.completeCycles_eq h
  obtain ⟨hopening, hclosing⟩ := h.windows_eq
  by_cases hshort : (Sustained.completeCycles modules).length <
      Sustained.minCyclesForRetention
  · exact Or.inl hshort
  · right
    intro key points points' hpoints hpoints'
    by_cases hdirection : leadingDirection points = leadingDirection points'
    · exact Or.inl hdirection
    · right
      intro first last hfirst hlast
      have hsame : List.Forall₂ SameObservation points points' := by
        have hrel := h.seriesOf_rel key
        rw [hpoints, hpoints'] at hrel
        cases hrel with
        | some hrel => exact hrel
      obtain ⟨result, hresult, hget⟩ :=
        Sustained.exists_retainedByMetric_seriesOf modules
      obtain ⟨result', hresult', hget'⟩ :=
        Sustained.exists_retainedByMetric_seriesOf modules'
      have hvalues : ∀ (key : String) (value : Exact),
          result[key]? = some value → ∃ r, 0 < r ∧ value = .fin r := by
        intro key value hvalue
        rw [hget] at hvalue
        obtain ⟨points, hpoints, hvalue⟩ := Option.bind_eq_some_iff.mp hvalue
        exact exists_pos_of_retention? hpoints hvalue
      obtain ⟨x, hx, rfl⟩ := exists_median_eq hpoints hfirst
      obtain ⟨y, hy, rfl⟩ := exists_median_eq hpoints hlast
      obtain ⟨point, rest, rfl⟩ := List.exists_cons_of_ne_nil
        (Sustained.isUsable_seriesOf modules key points hpoints).1
      obtain ⟨point', rest', rfl⟩ := List.exists_cons_of_ne_nil
        (Sustained.isUsable_seriesOf modules' key points' hpoints').1
      have hkey : result[key]? =
          some (.fin (point.direction.ratio y x)) := by
        rw [hget, hpoints, Option.bind_some,
          retention?_eq hx hy rfl hfirst hlast]
      have hkey' : result'[key]? =
          some (.fin (point'.direction.ratio y x)) := by
        rw [windowValues_eq hsame] at hfirst hlast
        rw [hget', hpoints', Option.bind_some, ← hopening, ← hclosing,
          retention?_eq hx hy rfl hfirst hlast]
      -- The outcome of the run holds the retention of each of its metrics.
      obtain ⟨outcome, houtcome⟩ := exists_outcomeOf_eq_some hvalues hkey
        (Sustained.completeCycles modules)
      rw [Sustained.analyse_of_not_lt hshort,
        Sustained.analyse_of_not_lt (hcycles ▸ hshort), hresult, hresult',
        Option.bind_some, Option.bind_some, ← hcycles, houtcome] at heq
      have hresults : result = result' :=
        (Sustained.byMetric_of_outcomeOf houtcome).symm.trans
          (Sustained.byMetric_of_outcomeOf heq.symm)
      rw [← hresults, hkey, Option.some.injEq, Exact.fin.injEq,
        Direction.ratio_eq_ratio_iff hx hy] at hkey'
      rcases hkey' with hequal | hequal
      · exact absurd (congrArg some hequal) hdirection
      · rw [hequal]

/-- Two runs that differ in directions only have the same card if the
directions do not matter, and in exact arithmetic only then. -/
theorem scoreRun_redirected_iff (profile : Profile) :
    (∀ (F : Type) [F64 F] (model : ScoringModel F)
      (modules modules' : List (ModuleResult F)),
      Redirected modules modules' → DirectionIrrelevant modules modules' →
        model.scoreRun profile modules = model.scoreRun profile modules') ∧
    ∀ (model : ScoringModel Exact)
      (modules modules' : List (ModuleResult Exact)),
      Redirected modules modules' →
        (model.scoreRun profile modules = model.scoreRun profile modules' ↔
          DirectionIrrelevant modules modules') :=
  ⟨fun _ _ model _ _ h hirrelevant =>
      h.scoreRun_eq hirrelevant model profile,
    fun model _ _ h =>
      ⟨fun heq => h.directionIrrelevant
          ((h.scoreRun_eq_iff model profile).mp heq),
        fun hirrelevant => h.scoreRun_eq hirrelevant model profile⟩⟩

/-- A run of two passes in which a value doubled. -/
noncomputable def twoPassRun (direction : Direction) :
    List (ModuleResult Exact) :=
  [oneMetricResult cpuMixed 0
      { bareMetric "crypto_sha256.single" (.fin 1) none with
        direction := direction },
    oneMetricResult cpuMixed 1
      { bareMetric "crypto_sha256.single" (.fin 2) none with
        direction := direction }]

theorem redirected_twoPassRun (direction direction' : Direction) :
    Redirected (twoPassRun direction) (twoPassRun direction') := by
  have hmetric : ∀ metric : Metric Exact,
      List.Forall₂
        (fun metric metric' : Metric Exact =>
          ∃ direction, metric' = { metric with direction := direction })
        [{ metric with direction := direction }]
        [{ metric with direction := direction' }] :=
    fun _ => List.Forall₂.cons ⟨direction', rfl⟩ List.Forall₂.nil
  exact List.Forall₂.cons ⟨_, rfl, hmetric _⟩
    (List.Forall₂.cons ⟨_, rfl, hmetric _⟩ List.Forall₂.nil)

theorem completeCycles_twoPassRun (direction : Direction) :
    Sustained.completeCycles (twoPassRun direction) = [0, 1] := by
  rfl

theorem seriesOf_twoPassRun (direction : Direction) :
    (seriesOf (twoPassRun direction))["cpu.mixed/crypto_sha256.single"]? =
      some [⟨0, .fin 1, direction⟩, ⟨1, .fin 2, direction⟩] := by
  have hrecord : ∀ (cycle : ℕ) (x : ℝ) (series : Sustained.Series Exact),
      0 < x → [0, 1].contains cycle = true →
      (Sustained.recordModule [0, 1] series (oneMetricResult cpuMixed cycle
        { bareMetric "crypto_sha256.single" (.fin x) none with
          direction := direction }))["cpu.mixed/crypto_sha256.single"]? =
        some (series["cpu.mixed/crypto_sha256.single"]?.getD [] ++
          [⟨cycle, .fin x, direction⟩]) := by
    intro cycle x series hx hcycle
    have hguard : ¬ ((!F64.isFinite (Exact.fin x) ||
        decide (Exact.fin x ≤ 0.0)) = true) := by
      rw [Exact.zero_eq, Exact.isFinite_fin]
      simpa using hx
    have hkey : scopedKey cpuMixed.asStr "crypto_sha256.single" =
        "cpu.mixed/crypto_sha256.single" := by
      decide
    simp only [Sustained.recordModule, oneMetricResult, hcycle,
      ModuleStatus.isScoreable, Bool.not_true, Bool.false_eq_true, if_false,
      List.foldl_cons, List.foldl_nil, Sustained.recordMetric, bareMetric]
    rw [if_neg hguard, hkey, Std.ExtTreeMap.getElem?_alter_self]
  rw [seriesOf, completeCycles_twoPassRun, twoPassRun, List.foldl_cons,
    List.foldl_cons, List.foldl_nil, hrecord 1 2 _ two_pos rfl,
    hrecord 0 1 _ one_pos rfl, Std.ExtTreeMap.getElem?_empty]
  rfl

/-- A value that doubled counts as a gain or as a loss, as the bundle says. -/
theorem scoreRun_twoPassRun_ne :
    Redirected (twoPassRun .lowerIsBetter) (twoPassRun .higherIsBetter) ∧
      ScoringModel.current.scoreRun .endurance (twoPassRun .lowerIsBetter) ≠
        ScoringModel.current.scoreRun .endurance
          (twoPassRun .higherIsBetter) := by
  have h := redirected_twoPassRun .lowerIsBetter .higherIsBetter
  refine ⟨h, fun heq => ?_⟩
  have hirrelevant := h.directionIrrelevant
    ((h.scoreRun_eq_iff ScoringModel.current .endurance).mp heq)
  have hmedian : ∀ a : Exact, Sustained.median [a] = some a := by
    intro a
    simp [Sustained.median, F64.sortTotal, F64.medianOfSorted]
  rcases hirrelevant with hshort | hseries
  · rw [completeCycles_twoPassRun] at hshort
    exact absurd hshort (by decide)
  · rcases hseries _ _ _ (seriesOf_twoPassRun .lowerIsBetter)
      (seriesOf_twoPassRun .higherIsBetter) with hdirection | hequal
    · exact absurd hdirection (by decide)
    · have hvalues := hequal (.fin 1) (.fin 2) (hmedian _) (hmedian _)
      exact absurd (Exact.fin.inj hvalues) (by norm_num)

/-- A run of a single pass has the same card in either direction. -/
theorem scoreRun_redirected_iff_hashRun :
    ScoringModel.current.scoreRun .standard (hashRun 1900 none) =
      ScoringModel.current.scoreRun .standard (oneMetricRun cpuMixed
        { bareMetric "crypto_sha256.single" (Exact.fin 1900) none with
          direction := .lowerIsBetter }) := by
  refine (scoreRun_redirected_iff .standard).1 Exact _ _ _ ?_
    (Or.inl (by decide))
  exact List.Forall₂.cons
    ⟨_, rfl, List.Forall₂.cons ⟨_, rfl⟩ List.Forall₂.nil⟩ List.Forall₂.nil

end Darcbench
