import Darcbench.Agent.Watchdog
import Darcbench.Protocol.Exact
import Darcbench.Report.Diagnosis
import Darcbench.Support.Spread

/-!
# Placeholders among the samples

A sample whose CPU percentages are placeholders says so.  The summary and the
watchdog pass these percentages over.  The diagnosis does not: it reads the
steal time of every sample.
-/

namespace Darcbench

variable {F : Type} [F64 F]

/-! ## Other placeholders -/

/-- Placeholders that a sample may hold. -/
structure Inventory.CpuReadings.ArePlaceholders
    (readings : Inventory.CpuReadings F) : Prop where
  busy : F64.isFinite readings.cpuBusyPct = true
  external : F64.isFinite readings.cpuExternalBusyPct = true
  steal : F64.isFinite readings.cpuStealPct = true
  iowait : F64.isFinite readings.cpuIowaitPct = true
  unavailable : readings.cpuUnavailable = true

abbrev TelemetrySeries (F : Type) := List (Inventory.TelemetrySnapshot F)

namespace Inventory.TelemetrySnapshot

/-- The same sample, though its placeholders may be others. -/
def Repaints (s t : Inventory.TelemetrySnapshot F) : Prop :=
  s = t ∨ s.cpuUnavailable = true ∧
    ∃ readings : CpuReadings F, readings.ArePlaceholders ∧
      t = { s with toCpuReadings := readings }

/-- What the watchdog reads of a sample. -/
def watched (s : Inventory.TelemetrySnapshot F) :
    Darcbench.TelemetrySnapshot F where
  cpuTempC := s.cpuTempC
  cpuExternalBusyPct := s.cpuExternalBusyPct
  cpuUnavailable := s.cpuUnavailable

end Inventory.TelemetrySnapshot

open Inventory.TelemetrySnapshot (Repaints)

section

variable [F64.Sqrt F] [F64.Display F]

/-- What the watchdog answers to some samples, each of which finds the run's
handle in some state at some time, and what it leaves on the handle. -/
def Watchdog.verdicts (watchdog : Watchdog) :
    List ((Supervision × ℕ) × Inventory.TelemetrySnapshot F) →
      List (Option WatchdogVerdict × Supervision)
  | [] => []
  | ((handle, elapsed), snapshot) :: rest =>
      let (verdict, watchdog, handle) :=
        watchdog.check handle ⟨elapsed, snapshot.watched⟩
      (verdict, handle) :: verdicts watchdog rest

/-- Two series say the same to everything that reads them. -/
structure TelemetrySeries.Alike (samples others : TelemetrySeries F) :
    Prop where
  summary : TelemetrySummary.fromSamples samples =
    TelemetrySummary.fromSamples others
  diagnosis : ∀ retention declined,
    Diagnosis.diagnose retention declined samples =
      Diagnosis.diagnose retention declined others
  verdicts : ∀ (watchdog : Watchdog) (moments : List (Supervision × ℕ)),
    watchdog.verdicts (moments.zip samples) =
      watchdog.verdicts (moments.zip others)

/-- No placeholder makes a difference to what is said about the samples. -/
def IgnoresPlaceholders (samples : TelemetrySeries F) : Prop :=
  ∀ others, List.Forall₂ Repaints samples others → samples.Alike others

end

/-- A sample with placeholders lies in neither window of the diagnosis, and no
other steal time of the series is a number. -/
def Sighted (samples : TelemetrySeries F) : Prop :=
  ∀ before s after, samples = before ++ s :: after →
    s.cpuUnavailable = true →
      max (samples.length / 3) 1 ≤ before.length ∧
        max (samples.length / 3) 1 ≤ after.length ∧
        ∀ t ∈ before ++ after, t.cpuUnavailable = false ∧
          F64.isFinite t.cpuStealPct = false

/-! ## What does not change -/

namespace Inventory.TelemetrySnapshot.Repaints

variable {s t : Inventory.TelemetrySnapshot F} (h : s.Repaints t)

include h

theorem cpuUnavailable : s.cpuUnavailable = t.cpuUnavailable := by
  rcases h with rfl | ⟨hunavailable, readings, hreadings, rfl⟩
  · rfl
  · exact hunavailable.trans hreadings.unavailable.symm

theorem eq_of_available (havailable : s.cpuUnavailable = false) : s = t := by
  rcases h with rfl | ⟨hunavailable, -⟩
  · rfl
  · rw [havailable] at hunavailable
    exact absurd hunavailable Bool.false_ne_true

/-- Everything but the percentages stays. -/
theorem eq_of_ignores {α : Type} {f : Inventory.TelemetrySnapshot F → α}
    (hf : ∀ (s : Inventory.TelemetrySnapshot F) (readings : CpuReadings F),
      f { s with toCpuReadings := readings } = f s) :
    f s = f t := by
  rcases h with rfl | ⟨-, readings, -, rfl⟩
  · rfl
  · exact (hf s readings).symm

end Inventory.TelemetrySnapshot.Repaints

namespace TelemetrySeries

variable {samples others : TelemetrySeries F}

theorem filter_eq (h : List.Forall₂ Repaints samples others) :
    samples.filter (!·.cpuUnavailable) = others.filter (!·.cpuUnavailable) := by
  apply filter_eq_filter_of_forall₂ _ _ h
  · intro s t hst
    rw [hst.cpuUnavailable]
  · intro s t hst havailable
    exact hst.eq_of_available (Bool.not_eq_true' _ ▸ havailable)

/-- The summary aggregates the percentages that were measured only. -/
theorem fromSamples_eq (h : List.Forall₂ Repaints samples others) :
    TelemetrySummary.fromSamples samples =
      TelemetrySummary.fromSamples others := by
  have hmap : ∀ {α : Type} (f : Inventory.TelemetrySnapshot F → α),
      (∀ (s : Inventory.TelemetrySnapshot F) (r : Inventory.CpuReadings F),
        f { s with toCpuReadings := r } = f s) →
      samples.map f = others.map f := by
    intro α f hf
    exact map_eq_map_of_forall₂ (fun _ _ hst => hst.eq_of_ignores hf) h
  have hfilterMap : ∀ (f : Inventory.TelemetrySnapshot F → Option F),
      (∀ (s : Inventory.TelemetrySnapshot F) (r : Inventory.CpuReadings F),
        f { s with toCpuReadings := r } = f s) →
      samples.filterMap f = others.filterMap f := by
    intro f hf
    exact filterMap_eq_of_forall₂ (fun _ _ hst => hst.eq_of_ignores hf) h
  have hfreq := hmap (·.cpuFreqMhz) fun _ _ => rfl
  have hbind : ∀ x : Option (Inventory.TelemetrySnapshot F),
      (x.map (·.cpuFreqMhz)).bind id = x.bind (·.cpuFreqMhz) := by
    intro x
    rw [Option.bind_map, Function.id_comp]
  have hfirst : samples.head?.bind (·.cpuFreqMhz) =
      others.head?.bind (·.cpuFreqMhz) := by
    rw [← hbind, ← hbind, ← List.head?_map, ← List.head?_map, hfreq]
  have hlast : samples.getLast?.bind (·.cpuFreqMhz) =
      others.getLast?.bind (·.cpuFreqMhz) := by
    rw [← hbind, ← hbind, ← List.getLast?_map, ← List.getLast?_map, hfreq]
  have hempty : samples.isEmpty = others.isEmpty := by
    cases h <;> rfl
  simp only [TelemetrySummary.fromSamples, TelemetrySummary.largest,
    TelemetrySummary.largestObserved, hempty, h.length_eq, filter_eq h, hfirst,
    hlast, hmap (·.load1) fun _ _ => rfl, hmap (·.memUsedBytes) fun _ _ => rfl,
    hmap (·.swapUsedBytes) fun _ _ => rfl,
    hfilterMap (·.cpuTempC) fun _ _ => rfl,
    hfilterMap (·.psiCpuSomeAvg10) fun _ _ => rfl]

end TelemetrySeries

namespace Watchdog

variable [F64.Display F]

/-- A sample that says so keeps its external load out of the load guard. -/
theorem checkExternalLoad_unavailable {watchdog : Watchdog}
    {handle : Supervision} {s t : TelemetrySnapshot F}
    (hs : s.cpuUnavailable = true) (ht : t.cpuUnavailable = true) :
    watchdog.checkExternalLoad handle s =
      watchdog.checkExternalLoad handle t := by
  rw [checkExternalLoad, checkExternalLoad, if_pos hs, if_pos ht]

theorem check_watched {s t : Inventory.TelemetrySnapshot F} (h : s.Repaints t)
    (watchdog : Watchdog) (handle : Supervision) (elapsed : ℕ) :
    watchdog.check handle ⟨elapsed, s.watched⟩ =
      watchdog.check handle ⟨elapsed, t.watched⟩ := by
  rcases h with rfl | ⟨hunavailable, readings, hreadings, rfl⟩
  · rfl
  · have hload : ∀ (watchdog : Watchdog),
        watchdog.checkExternalLoad handle s.watched =
          watchdog.checkExternalLoad handle
            { s with toCpuReadings := readings }.watched :=
      fun _ => checkExternalLoad_unavailable hunavailable hreadings.unavailable
    have htemp : s.watched.cpuTempC =
        { s with toCpuReadings := readings }.watched.cpuTempC := rfl
    simp only [check, hload, htemp]

theorem verdicts_eq {samples others : TelemetrySeries F}
    (h : List.Forall₂ Repaints samples others) (watchdog : Watchdog)
    (moments : List (Supervision × ℕ)) :
    watchdog.verdicts (moments.zip samples) =
      watchdog.verdicts (moments.zip others) := by
  induction h generalizing watchdog moments with
  | nil => rfl
  | cons hst _ ih =>
      cases moments with
      | nil => rfl
      | cons moment moments =>
          rw [List.zip_cons_cons, List.zip_cons_cons, verdicts, verdicts,
            check_watched hst]
          simp only [ih]

end Watchdog

/-! ## The diagnosis of a sighted series -/

theorem eq_of_forall_available {samples others : TelemetrySeries F}
    (h : List.Forall₂ Repaints samples others)
    (havailable : ∀ s ∈ samples, s.cpuUnavailable = false) :
    samples = others := by
  induction h with
  | nil => rfl
  | cons hst _ ih =>
      obtain ⟨hs, hrest⟩ := List.forall_mem_cons.mp havailable
      rw [hst.eq_of_available hs, ih hrest]

namespace Diagnosis

/-- The steal time of a sample. -/
def steal (s : Inventory.TelemetrySnapshot F) : Option F :=
  some s.cpuStealPct

theorem forall₂_opening {samples others : TelemetrySeries F}
    (h : List.Forall₂ Repaints samples others) :
    List.Forall₂ Repaints (opening samples) (opening others) := by
  rw [opening, opening, h.length_eq]
  exact List.forall₂_take _ h

theorem forall₂_closing {samples others : TelemetrySeries F}
    (h : List.Forall₂ Repaints samples others) :
    List.Forall₂ Repaints (closing samples) (closing others) := by
  rw [closing, closing, h.length_eq]
  exact List.forall₂_drop _ h

theorem available_of_mem_opening {samples : TelemetrySeries F}
    (h : Sighted samples) {s : Inventory.TelemetrySnapshot F}
    (hs : s ∈ opening samples) : s.cpuUnavailable = false := by
  by_contra hunavailable
  obtain ⟨before, after, hsplit⟩ := List.append_of_mem hs
  have hlength := congrArg List.length hsplit
  rw [opening, List.length_take, List.length_append, List.length_cons]
    at hlength
  have hwhole : samples = before ++ s :: (after ++
      samples.drop (min (max (samples.length / 3) 1) samples.length)) := by
    rw [← List.cons_append, ← List.append_assoc, ← hsplit]
    exact (List.take_append_drop _ _).symm
  have hwindow := (h _ _ _ hwhole (Bool.eq_true_of_not_eq_false hunavailable)).1
  omega

theorem available_of_mem_closing {samples : TelemetrySeries F}
    (h : Sighted samples) {s : Inventory.TelemetrySnapshot F}
    (hs : s ∈ closing samples) : s.cpuUnavailable = false := by
  by_contra hunavailable
  obtain ⟨before, after, hsplit⟩ := List.append_of_mem hs
  have hlength := congrArg List.length hsplit
  rw [closing, List.length_drop, List.length_append, List.length_cons]
    at hlength
  have hwhole : samples =
      (samples.take (samples.length - max (samples.length / 3) 1) ++ before) ++
        s :: after := by
    rw [List.append_assoc, ← hsplit]
    exact (List.take_append_drop _ _).symm
  have hwindow :=
    (h _ _ _ hwhole (Bool.eq_true_of_not_eq_false hunavailable)).2.1
  omega

theorem mean_eq_of_ignores {samples others : TelemetrySeries F}
    (h : List.Forall₂ Repaints samples others)
    {f : Inventory.TelemetrySnapshot F → Option F}
    (hf : ∀ (s : Inventory.TelemetrySnapshot F) (r : Inventory.CpuReadings F),
      f { s with toCpuReadings := r } = f s) :
    mean samples f = mean others f := by
  have hvalues : samples.filterMap f = others.filterMap f :=
    filterMap_eq_of_forall₂ (fun _ _ hst => hst.eq_of_ignores hf) h
  rw [mean, mean, valuesOf, valuesOf, hvalues]

theorem valuesOf_append (before after : TelemetrySeries F)
    (f : Inventory.TelemetrySnapshot F → Option F) :
    valuesOf (before ++ after) f = valuesOf before f ++ valuesOf after f := by
  rw [valuesOf, List.filterMap_append, List.filter_append, valuesOf, valuesOf]

variable [F64.Sqrt F]

/-- Only the steal times of the evidence can depend on placeholders. -/
theorem gather_eq {samples others : TelemetrySeries F}
    (h : List.Forall₂ Repaints samples others)
    (hopening : mean (opening samples) steal = mean (opening others) steal)
    (hclosing : mean (closing samples) steal = mean (closing others) steal)
    (hstddev : stddev samples steal = stddev others steal) :
    gather samples = gather others := by
  have hopening' : mean (opening samples) (fun s => some s.cpuStealPct) =
      mean (opening others) fun s => some s.cpuStealPct := hopening
  have hclosing' : mean (closing samples) (fun s => some s.cpuStealPct) =
      mean (closing others) fun s => some s.cpuStealPct := hclosing
  have hstddev' : stddev samples (fun s => some s.cpuStealPct) =
      stddev others fun s => some s.cpuStealPct := hstddev
  simp only [gather, hopening', hclosing', hstddev', h.length_eq,
    mean_eq_of_ignores (f := (·.cpuFreqMhz)) (forall₂_opening h)
      fun _ _ => rfl,
    mean_eq_of_ignores (f := (·.cpuFreqMhz)) (forall₂_closing h)
      fun _ _ => rfl,
    mean_eq_of_ignores (f := (·.cpuTempC)) (forall₂_opening h) fun _ _ => rfl,
    mean_eq_of_ignores (f := (·.cpuTempC)) (forall₂_closing h) fun _ _ => rfl]

/-- A single number has no deviation. -/
theorem stddev_of_lone {before after : TelemetrySeries F}
    (h : ∀ t ∈ before ++ after, F64.isFinite t.cpuStealPct = false)
    (s : Inventory.TelemetrySnapshot F) :
    stddev (before ++ s :: after) steal = none := by
  have hnil : ∀ samples : TelemetrySeries F,
      (∀ t ∈ samples, F64.isFinite t.cpuStealPct = false) →
      valuesOf samples steal = [] := by
    intro samples hsamples
    rw [valuesOf, List.filter_eq_nil_iff]
    intro v hv
    obtain ⟨t, ht, hvt⟩ := List.mem_filterMap.mp hv
    obtain rfl := Option.some.inj hvt
    rw [hsamples t ht]
    exact Bool.false_ne_true
  have hlength : (valuesOf (before ++ s :: after) steal).length < 2 := by
    rw [← List.singleton_append, valuesOf_append, valuesOf_append,
      hnil before fun t ht => h t (List.mem_append_left _ ht),
      hnil after fun t ht => h t (List.mem_append_right _ ht),
      List.nil_append, List.append_nil]
    exact Nat.lt_succ_of_le (List.length_filter_le _ _)
  exact if_pos hlength

theorem stddev_eq_of_sighted {samples others : TelemetrySeries F}
    (hsighted : Sighted samples) (h : List.Forall₂ Repaints samples others) :
    stddev samples steal = stddev others steal := by
  by_cases havailable : ∀ s ∈ samples, s.cpuUnavailable = false
  · rw [eq_of_forall_available h havailable]
  · push Not at havailable
    obtain ⟨s, hs, hunavailable⟩ := havailable
    obtain ⟨before, after, rfl⟩ := List.append_of_mem hs
    obtain ⟨-, -, halone⟩ := hsighted before s after rfl
      (Bool.eq_true_of_not_eq_false hunavailable)
    obtain ⟨before', rest, rfl, hbefore, hrest⟩ := exists_append_of_forall₂ h
    obtain ⟨t, after', -, hafter, rfl⟩ :=
      List.forall₂_cons_left_iff.mp hrest
    have hbefore' := eq_of_forall_available hbefore
      fun u hu => (halone u (List.mem_append_left _ hu)).1
    have hafter' := eq_of_forall_available hafter
      fun u hu => (halone u (List.mem_append_right _ hu)).1
    subst hbefore' hafter'
    rw [stddev_of_lone fun u hu => (halone u hu).2,
      stddev_of_lone fun u hu => (halone u hu).2]

theorem gather_eq_of_sighted {samples others : TelemetrySeries F}
    (hsighted : Sighted samples) (h : List.Forall₂ Repaints samples others) :
    gather samples = gather others := by
  apply gather_eq h
  · rw [eq_of_forall_available (forall₂_opening h)
      fun _ hs => available_of_mem_opening hsighted hs]
  · rw [eq_of_forall_available (forall₂_closing h)
      fun _ hs => available_of_mem_closing hsighted hs]
  · exact stddev_eq_of_sighted hsighted h

variable [F64.Display F]

/-- The evidence decides the diagnosis, and is part of it. -/
theorem diagnose_eq_iff {samples others : TelemetrySeries F} :
    (∀ retention declined, diagnose retention declined samples =
      diagnose retention declined others) ↔
      gather samples = gather others := by
  constructor
  · intro h
    have hsome := Option.some.inj (h (some 1.0) false)
    exact congrArg SustainedDiagnosis.evidence hsome
  · intro h retention declined
    simp only [diagnose, h]

end Diagnosis

/-! ## A placeholder that shows -/

namespace Diagnosis

/-- A sample without a reading, and a steal time in its place. -/
noncomputable def paint (x : ℝ) (s : Inventory.TelemetrySnapshot Exact) :
    Inventory.TelemetrySnapshot Exact :=
  { s with
    toCpuReadings := {
      cpuBusyPct := 0.0
      cpuExternalBusyPct := 0.0
      cpuStealPct := .fin x
      cpuIowaitPct := 0.0
      cpuUnavailable := true } }

/-- A sample whose steal time is a number if there is none to read. -/
noncomputable def blank (s : Inventory.TelemetrySnapshot Exact) :
    Inventory.TelemetrySnapshot Exact :=
  if s.cpuUnavailable then paint 0 s else s

theorem repaints_paint (x : ℝ) {s : Inventory.TelemetrySnapshot Exact}
    (h : s.cpuUnavailable = true) : s.Repaints (paint x s) :=
  .inr ⟨h, _, ⟨F64.isFinite_zero, F64.isFinite_zero, rfl, F64.isFinite_zero,
    rfl⟩, rfl⟩

theorem repaints_blank (s : Inventory.TelemetrySnapshot Exact) :
    s.Repaints (blank s) := by
  rw [blank]
  by_cases h : s.cpuUnavailable = true
  · rw [if_pos h]
    exact repaints_paint 0 h
  · rw [if_neg h]
    exact .inl rfl

theorem exists_valuesOf_eq (samples : TelemetrySeries Exact)
    (f : Inventory.TelemetrySnapshot Exact → Option Exact) :
    ∃ xs : List ℝ, valuesOf samples f = xs.map .fin := by
  apply Exact.exists_map_fin
  intro a ha
  exact Exact.isFinite_eq_true_iff.mp (List.mem_filter.mp ha).2

theorem valuesOf_paint {before after : TelemetrySeries Exact} {xs ys : List ℝ}
    (hxs : valuesOf before steal = xs.map .fin)
    (hys : valuesOf after steal = ys.map .fin)
    (x : ℝ) (s : Inventory.TelemetrySnapshot Exact) :
    valuesOf (before ++ paint x s :: after) steal =
      (xs ++ x :: ys).map .fin := by
  rw [← List.singleton_append, valuesOf_append, valuesOf_append, hxs, hys,
    List.map_append]
  rfl

theorem meanOf_map_fin {xs : List ℝ} (h : xs ≠ []) :
    meanOf (xs.map .fin : List Exact) = .fin (xs.sum / xs.length) := by
  have hlength : (xs.length : ℝ) ≠ 0 :=
    Nat.cast_ne_zero.mpr fun hzero => h (List.eq_nil_of_length_eq_zero hzero)
  rw [meanOf, Exact.sum_map_fin, List.length_map, Exact.ofNat_eq,
    Exact.fin_div_fin _ hlength]

theorem varianceOf_map_fin {xs : List ℝ} (h : 2 ≤ xs.length) :
    varianceOf (xs.map .fin : List Exact) =
      .fin (Spread.squaredDeviations xs / (xs.length - 1)) := by
  have hne : xs ≠ [] := by
    rintro rfl
    exact absurd h (by decide)
  have hlength : ((xs.length : ℝ) - 1) ≠ 0 := by
    have htwo : (2 : ℝ) ≤ xs.length := Nat.ofNat_le_cast.mpr h
    linarith
  have hdeviations : (xs.map Exact.fin).map (fun v =>
      (v - .fin (xs.sum / xs.length)) * (v - .fin (xs.sum / xs.length))) =
        (xs.map fun v => (v - xs.sum / xs.length) ^ 2).map .fin := by
    rw [List.map_map, List.map_map]
    apply List.map_congr_left
    intro v _
    rw [Function.comp_apply, Exact.fin_sub_fin, Exact.fin_mul_fin, ← sq]
    rfl
  rw [varianceOf, meanOf_map_fin hne]
  simp only [hdeviations]
  rw [Exact.sum_map_fin, List.length_map, Exact.ofNat_eq, Exact.one_eq,
    Exact.fin_sub_fin, Exact.fin_div_fin _ hlength, Spread.squaredDeviations]

variable {before after : TelemetrySeries Exact}
  {s : Inventory.TelemetrySnapshot Exact}

/-- A mean tells the placeholders in it apart. -/
theorem not_mean_const {m : Exact}
    (hconst : ∀ x, (mean (before ++ paint x s :: after) steal).getD 0.0 = m) :
    False := by
  obtain ⟨xs, hxs⟩ := exists_valuesOf_eq before steal
  obtain ⟨ys, hys⟩ := exists_valuesOf_eq after steal
  have hmean : ∀ x : ℝ, (mean (before ++ paint x s :: after) steal).getD 0.0 =
      .fin ((xs ++ x :: ys).sum / (xs ++ x :: ys).length) := by
    intro x
    rw [mean, valuesOf_paint hxs hys, if_neg (by simp),
      meanOf_map_fin (by simp), Option.getD_some]
  have heq := (hmean 0).symm.trans ((hconst 0).trans ((hconst 1).symm.trans
    (hmean 1)))
  exact zero_ne_one (Spread.mean_injective (Exact.fin.inj heq))

/-- A deviation tells the placeholders in it apart, if there are other
numbers. -/
theorem not_stddev_const (hne : valuesOf (before ++ after) steal ≠ [])
    {d : Exact}
    (hconst : ∀ x,
      (stddev (before ++ paint x s :: after) steal).getD 0.0 = d) :
    False := by
  obtain ⟨xs, hxs⟩ := exists_valuesOf_eq before steal
  obtain ⟨ys, hys⟩ := exists_valuesOf_eq after steal
  have hne' : xs ++ ys ≠ [] := by
    rintro hnil
    rw [valuesOf_append, hxs, hys, ← List.map_append, hnil] at hne
    exact hne rfl
  have hpos : 0 < xs.length + ys.length := by
    rw [← List.length_append]
    exact List.length_pos_of_ne_nil hne'
  have hlength : ∀ x : ℝ,
      (xs ++ x :: ys).length = xs.length + (ys.length + 1) := by
    intro x
    rw [List.length_append, List.length_cons]
  have hspan : (0 : ℝ) < (xs.length + (ys.length + 1) : ℕ) - 1 := by
    have htwo : (2 : ℝ) ≤ (xs.length + (ys.length + 1) : ℕ) :=
      Nat.ofNat_le_cast.mpr (by omega)
    linarith
  have hvariance : ∀ x : ℝ, 0 ≤ Spread.squaredDeviations (xs ++ x :: ys) /
      ((xs.length + (ys.length + 1) : ℕ) - 1) := fun x =>
    div_nonneg (Spread.squaredDeviations_nonneg _) hspan.le
  have hstddev : ∀ x : ℝ,
      (stddev (before ++ paint x s :: after) steal).getD 0.0 =
        .fin (Real.sqrt (Spread.squaredDeviations (xs ++ x :: ys) /
          ((xs.length + (ys.length + 1) : ℕ) - 1))) := by
    intro x
    have hmany : 2 ≤ (xs ++ x :: ys).length := by
      rw [hlength]
      omega
    rw [stddev, valuesOf_paint hxs hys, if_neg (by rw [List.length_map]; omega),
      varianceOf_map_fin hmany, hlength, Exact.sqrt_fin (hvariance x),
      Option.getD_some]
  apply Spread.not_squaredDeviations_const hne'
  intro x
  have heq := (hstddev x).symm.trans ((hconst x).trans ((hconst 0).symm.trans
    (hstddev 0)))
  rw [Exact.fin.injEq, Real.sqrt_inj (hvariance x) (hvariance 0),
    div_left_inj' hspan.ne'] at heq
  exact heq

end Diagnosis

/-! ## Series that need no readings in place of the placeholders -/

section

variable {before after : TelemetrySeries Exact}
  {s : Inventory.TelemetrySnapshot Exact}

namespace Diagnosis

/-- The series with one placeholder painted over, and the others blank. -/
noncomputable def painted (before : TelemetrySeries Exact)
    (s : Inventory.TelemetrySnapshot Exact) (after : TelemetrySeries Exact)
    (x : ℝ) : TelemetrySeries Exact :=
  before.map blank ++ paint x s :: after.map blank

theorem forall₂_blank (samples : TelemetrySeries Exact) :
    List.Forall₂ Repaints samples (samples.map blank) := by
  rw [List.forall₂_map_right_iff]
  exact List.forall₂_same.mpr fun s _ => repaints_blank s

theorem forall₂_painted (h : s.cpuUnavailable = true) (x : ℝ) :
    List.Forall₂ Repaints (before ++ s :: after) (painted before s after x) :=
  List.rel_append (forall₂_blank before)
    (.cons (repaints_paint x h) (forall₂_blank after))

theorem length_painted (x : ℝ) :
    (painted before s after x).length = (before ++ s :: after).length := by
  simp [painted]

theorem opening_painted
    (h : before.length < max ((before ++ s :: after).length / 3) 1) :
    ∃ n, ∀ x, opening (painted before s after x) =
      before.map blank ++ paint x s :: (after.map blank).take n := by
  have hlength : before.length < (before ++ s :: after).length := by
    rw [List.length_append, List.length_cons]
    omega
  have hwindow := lt_min h hlength
  generalize hk : min (max ((before ++ s :: after).length / 3) 1)
    (before ++ s :: after).length = k at hwindow
  refine ⟨k - before.length - 1, fun x => ?_⟩
  have hdrop : k - before.length = (k - before.length - 1) + 1 := by omega
  rw [opening, length_painted]
  simp only [hk]
  rw [painted, List.take_append, List.length_map,
    List.take_of_length_le (by rw [List.length_map]; exact hwindow.le), hdrop,
    List.take_succ_cons, Nat.add_sub_cancel]

theorem closing_painted
    (h : after.length < max ((before ++ s :: after).length / 3) 1) :
    ∃ n, ∀ x, closing (painted before s after x) =
      (before.map blank).drop n ++ paint x s :: after.map blank := by
  have hle : (before ++ s :: after).length -
      max ((before ++ s :: after).length / 3) 1 ≤ before.length := by
    have hlength : (before ++ s :: after).length =
        before.length + (after.length + 1) := by
      rw [List.length_append, List.length_cons]
    omega
  refine ⟨(before ++ s :: after).length -
    max ((before ++ s :: after).length / 3) 1, fun x => ?_⟩
  rw [closing, length_painted]
  exact List.drop_append_of_le_length (by rwa [List.length_map])

theorem valuesOf_blank_ne_nil {samples : TelemetrySeries Exact}
    {t : Inventory.TelemetrySnapshot Exact} (ht : t ∈ samples)
    (h : ¬ (t.cpuUnavailable = false ∧ F64.isFinite t.cpuStealPct = false)) :
    valuesOf (samples.map blank) steal ≠ [] := by
  have hfinite : F64.isFinite (blank t).cpuStealPct = true := by
    rw [blank]
    by_cases hunavailable : t.cpuUnavailable = true
    · rw [if_pos hunavailable]
      rfl
    · rw [if_neg hunavailable]
      by_contra hnot
      exact h ⟨Bool.eq_false_of_not_eq_true hunavailable,
        Bool.eq_false_of_not_eq_true hnot⟩
  exact List.ne_nil_of_mem (List.mem_filter.mpr
    ⟨List.mem_filterMap.mpr ⟨blank t, List.mem_map_of_mem ht, rfl⟩, hfinite⟩)

end Diagnosis

/-- What is said about a series depends on no placeholder exactly if the series
is sighted. -/
theorem ignoresPlaceholders_iff [F64.Display Exact]
    (samples : TelemetrySeries Exact) :
    IgnoresPlaceholders samples ↔ Sighted samples := by
  constructor
  · intro h before s after hsplit hunavailable
    subst hsplit
    have hgather : ∀ x, Diagnosis.gather (before ++ s :: after) =
        Diagnosis.gather (Diagnosis.painted before s after x) := by
      intro x
      have halike := h _ (Diagnosis.forall₂_painted hunavailable x)
      exact Diagnosis.diagnose_eq_iff.mp halike.diagnosis
    refine ⟨?_, ?_, ?_⟩
    · by_contra hwindow
      obtain ⟨n, hopening⟩ := Diagnosis.opening_painted (not_le.mp hwindow)
      apply Diagnosis.not_mean_const
      intro x
      rw [← hopening x]
      exact (congrArg SustainedEvidence.stealPctOpening (hgather x)).symm
    · by_contra hwindow
      obtain ⟨n, hclosing⟩ := Diagnosis.closing_painted (not_le.mp hwindow)
      apply Diagnosis.not_mean_const
      intro x
      rw [← hclosing x]
      exact (congrArg SustainedEvidence.stealPctClosing (hgather x)).symm
    · intro t ht
      by_contra hnumber
      have hne := Diagnosis.valuesOf_blank_ne_nil ht hnumber
      rw [List.map_append] at hne
      apply Diagnosis.not_stddev_const (s := s) hne
      intro x
      exact (congrArg SustainedEvidence.stealPctStddev (hgather x)).symm
  · intro hsighted others h
    exact {
      summary := TelemetrySeries.fromSamples_eq h
      diagnosis := Diagnosis.diagnose_eq_iff.mpr
        (Diagnosis.gather_eq_of_sighted hsighted h)
      verdicts := Watchdog.verdicts_eq h }

end

/-! ## A steal time that nobody read -/

def sampleOf (steal : Float) (unavailable : Bool) :
    Inventory.TelemetrySnapshot Float where
  cpuBusyPct := 0.0
  cpuExternalBusyPct := 0.0
  cpuStealPct := steal
  cpuIowaitPct := 0.0
  cpuUnavailable := unavailable
  load1 := 1.0
  memUsedBytes := 0
  memTotalBytes := 0
  swapUsedBytes := 0
  cpuFreqMhz := none
  cpuTempC := none
  psiCpuSomeAvg10 := none
  psiIoSomeAvg10 := none
  psiMemSomeAvg10 := none
  diskReadBytesPerS := 0
  diskWriteBytesPerS := 0
  netRxBytesPerS := 0
  netTxBytesPerS := 0

/-- Steal time held at twelve per cent, but the first reading failed. -/
def missedStart (placeholder : Float) : TelemetrySeries Float :=
  [sampleOf placeholder true, sampleOf 12.0 false, sampleOf 12.0 false]

theorem repaints_missedStart :
    List.Forall₂ Repaints (missedStart 0.0) (missedStart 12.0) := by
  refine .cons (.inr ⟨rfl, (sampleOf 12.0 true).toCpuReadings, ?_, rfl⟩)
    (.cons (.inl rfl) (.cons (.inl rfl) .nil))
  constructor <;> decide

/-- The placeholder makes a credit balance out of a noisy neighbour. -/
theorem not_ignoresPlaceholders_missedStart :
    ¬ IgnoresPlaceholders (missedStart 0.0) := by
  intro h
  have hdiagnosis := (h _ repaints_missedStart).diagnosis (some 0.5) true
  have hcause := congrArg (Option.map SustainedDiagnosis.cause) hdiagnosis
  have hcredit : (Diagnosis.diagnose (some 0.5) true (missedStart 0.0)).map
      SustainedDiagnosis.cause = some .burstCreditExhaustion := by
    decide
  have hneighbour : (Diagnosis.diagnose (some 0.5) true
      (missedStart 12.0)).map SustainedDiagnosis.cause =
        some .noisyNeighbour := by
    decide +kernel
  rw [hcredit, hneighbour] at hcause
  exact absurd hcause (by decide)

end Darcbench
