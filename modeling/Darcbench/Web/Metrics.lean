import Darcbench.Agent.View
import Darcbench.Scoring.Contributions
import Darcbench.Support.Latest
import Darcbench.Web.Delivery

/-!
# The metrics that a dashboard shows

The key of a metric is unique within its module.  Both dashboards keep their
metrics under the key alone, so that a module replaces what another one has
reported under the same key.
-/

namespace Darcbench

variable {F : Type}

open RunView (LiveMetric)

/-! ## The rows of the terminal -/

namespace View

def MetricTrack.live (key : String) (track : MetricTrack F) :
    LiveMetric F where
  key := key
  value := track.value
  unit := track.unit
  rep := track.rep

/-- The live metrics that the terminal shows. -/
def liveMetrics (view : View F) : List (LiveMetric F) :=
  view.metrics.toList.map fun entry => entry.2.live entry.1

/-- The track of a key shows the last sample under it. -/
def ShowsLatest (view : View F) (reports : List (LiveMetric F)) : Prop :=
  ∀ key : String, (view.metrics[key]?).map (MetricTrack.live key) =
    latest LiveMetric.key reports key

theorem ShowsLatest.toLatest {view : View F} {reports : List (LiveMetric F)}
    (h : view.ShowsLatest reports) :
    Latest LiveMetric.key reports view.liveMetrics where
  nodup := by
    rw [liveMetrics, List.map_map]
    exact BTreeMap.keys_toList_nodup view.metrics
  mem_iff live := by
    rw [← h live.key, liveMetrics, List.mem_map, Option.map_eq_some_iff]
    constructor
    · rintro ⟨⟨key, track⟩, hentry, rfl⟩
      exact ⟨track, BTreeMap.mem_toList_iff.mp hentry, rfl⟩
    · rintro ⟨track, htrack, hlive⟩
      exact ⟨(live.key, track), BTreeMap.mem_toList_iff.mpr htrack, hlive⟩

theorem metrics_updateRow (view : View F) (id : ModuleId)
    (f : ModuleRow F → ModuleRow F) :
    (view.updateRow id f).metrics = view.metrics :=
  rfl

theorem metrics_foldl_note (findings : List PreflightFinding)
    (view : View F) :
    (findings.foldl (fun view finding =>
      view.note .error s!"{finding.check}: {finding.message}")
      view).metrics = view.metrics := by
  induction findings generalizing view with
  | nil => rfl
  | cons finding rest ih => exact ih _

end View

variable [F64 F]

/-! ## What the modules report -/

def Event.completedResult? : Event F → Option (ModuleResult F)
  | .moduleCompleted completed => some completed.result
  | _ => none

/-- A sample that is charted. -/
def Event.chartedSample? : Event F → Option (ModuleSampleEvent F)
  | .moduleSample sample => if sample.warmup then none else some sample
  | _ => none

def ModuleSampleEvent.live (sample : ModuleSampleEvent F) : LiveMetric F where
  key := sample.metricKey
  value := sample.value
  unit := sample.unit
  rep := sample.rep

/-- The live values of a stream, with the modules that report them. -/
def lives (events : List (Envelope F)) : List (ModuleId × LiveMetric F) :=
  (events.filterMap fun e => e.event.chartedSample?).map fun sample =>
    (sample.module, sample.live)

theorem map_snd_lives (events : List (Envelope F)) :
    (lives events).map Prod.snd =
      (events.filterMap fun e => e.event.chartedSample?).map
        ModuleSampleEvent.live := by
  rw [lives, List.map_map]
  rfl

/-- The final values of a stream, with the modules that report them. -/
def finals (events : List (Envelope F)) : List (ModuleId × Metric F) :=
  (events.filterMap fun e => e.event.completedResult?).flatMap fun result =>
    result.metrics.map fun metric => (result.module.id, metric)

/-- The modules and keys of the live values. -/
def liveKeys (events : List (Envelope F)) : List (ModuleId × String) :=
  (lives events).map (ownedKey LiveMetric.key)

/-- The modules and keys of all values. -/
def reportedKeys (events : List (Envelope F)) : List (ModuleId × String) :=
  liveKeys events ++ (finals events).map (ownedKey Metric.key)

/-! ## The table in the browser -/

namespace RunView

/-- A row of the table of measurements. -/
inductive Row (F : Type) where
  | live (metric : LiveMetric F)
  | final (metric : Metric F)

def Row.key : Row F → String
  | live metric => metric.key
  | final metric => metric.key

/-- The live metrics, replaced by the final ones. -/
def merged (view : RunView F) : List (Row F) :=
  view.results.foldl
    (fun rows result => result.metrics.foldl
      (fun rows metric => setKeyed Row.key rows (.final metric)) rows)
    (view.liveMetrics.foldl
      (fun rows live => setKeyed Row.key rows (.live live)) [])

/-- The rows in the order that the browser has for strings. -/
def metrics (localeCompare : String → String → Ordering) (view : RunView F) :
    List (Row F) :=
  view.merged.mergeSort fun a b => (localeCompare a.key b.key).isLE

/-- What the table is to show of a module and a key: the latest final value, or
else the latest live one. -/
def shownRow (events : List (Envelope F)) (p : ModuleId × String) :
    Option (Row F) :=
  ((latestOf Metric.key (finals events) p).map Row.final).or
    ((latestOf LiveMetric.key (lives events) p).map Row.live)

/-! ### The lists of the view -/

theorem results_apply (view : RunView F) (envelope : Envelope F) :
    (view.apply envelope).results =
      view.results ++ envelope.event.completedResult?.toList := by
  obtain ⟨protocol, runId, seq, ts, monoMs, event⟩ := envelope
  cases event with
  | moduleCompleted completed => rfl
  | moduleSample sample =>
      simp only [apply, foldBody, foldModuleSample, Event.completedResult?,
        Option.toList_none, List.append_nil]
      split <;> rfl
  | _ =>
      simp only [apply, foldBody, foldLifecycle, foldPreflightCompleted,
        foldScore, foldRunCompleted, Event.completedResult?,
        Option.toList_none, List.append_nil]

theorem liveMetrics_apply (view : RunView F) (envelope : Envelope F) :
    (view.apply envelope).liveMetrics =
      (envelope.event.chartedSample?.toList.map
        ModuleSampleEvent.live).foldl (setKeyed LiveMetric.key)
          view.liveMetrics := by
  obtain ⟨protocol, runId, seq, ts, monoMs, event⟩ := envelope
  cases event with
  | moduleSample sample =>
      simp only [apply, foldBody, foldModuleSample, Event.chartedSample?]
      split <;> rfl
  | _ =>
      simp only [apply, foldBody, foldLifecycle, foldPreflightCompleted,
        foldScore, foldRunCompleted, Event.chartedSample?,
        Option.toList_none, List.map_nil, List.foldl_nil]

theorem results_foldl (view : RunView F) (events : List (Envelope F)) :
    (events.foldl apply view).results = view.results ++
      events.filterMap fun e => e.event.completedResult? := by
  induction events using List.reverseRecOn with
  | nil => exact (List.append_nil _).symm
  | append_singleton events e ih =>
      rw [List.foldl_append, filterMap_concat, ← List.append_assoc, ← ih]
      exact results_apply _ e

theorem liveMetrics_foldl (view : RunView F) (events : List (Envelope F)) :
    (events.foldl apply view).liveMetrics =
      ((lives events).map Prod.snd).foldl (setKeyed LiveMetric.key)
        view.liveMetrics := by
  rw [map_snd_lives]
  induction events using List.reverseRecOn with
  | nil => rfl
  | append_singleton events e ih =>
      rw [List.foldl_append, filterMap_concat, List.map_append,
        List.foldl_append, ← ih]
      exact liveMetrics_apply _ e

/-- Nothing of a stream is skipped. -/
theorem foldl_foldEvent_reset (runId : String) {events : List (Envelope F)}
    (h : events.Pairwise fun a b => a.seq < b.seq) :
    events.foldl foldEvent (reset runId) =
      events.foldl apply (reset runId) := by
  rw [foldl_foldEvent_eq]
  exact SequencedFold.foldl_fold_of_sorted h fun e _ =>
    (next_reset (F := F) runId).symm ▸ Nat.zero_le _

/-! ### The rows -/

/-- All reports, the live ones first. -/
def reports (events : List (Envelope F)) : List (ModuleId × Row F) :=
  (lives events).map (Prod.map id Row.live) ++
    (finals events).map (Prod.map id Row.final)

theorem reportedKeys_eq (events : List (Envelope F)) :
    reportedKeys events = (reports events).map (ownedKey Row.key) := by
  rw [reports, List.map_append, List.map_map, List.map_map]
  rfl

theorem shownRow_eq (events : List (Envelope F)) :
    shownRow events = latestOf Row.key (reports events) := by
  funext p
  rw [reports, latestOf_append, latestOf_map, latestOf_map]
  rfl

theorem merged_eq (view : RunView F) :
    view.merged =
      (view.results.flatMap fun result => result.metrics.map Row.final).foldl
        (setKeyed Row.key)
        ((view.liveMetrics.map Row.live).foldl (setKeyed Row.key) []) := by
  rw [merged, List.foldl_flatMap, List.foldl_map]
  simp only [List.foldl_map]

/-- The rows are the latest reports. -/
theorem latest_merged (runId : String) (events : List (Envelope F)) :
    Latest Row.key ((reports events).map Prod.snd)
      (events.foldl apply (reset runId)).merged := by
  have hlive : Latest LiveMetric.key ((lives events).map Prod.snd)
      (events.foldl apply (reset runId)).liveMetrics := by
    rw [liveMetrics_foldl]
    exact Latest.nil.foldl _
  have hrows : Latest Row.key (((lives events).map Prod.snd).map Row.live)
      ((events.foldl apply (reset runId)).liveMetrics.map Row.live) :=
    hlive.map fun _ => rfl
  have hlives : ((lives events).map (Prod.map id Row.live)).map Prod.snd =
      ((lives events).map Prod.snd).map Row.live := by
    rw [List.map_map, List.map_map]
    rfl
  have hfinals : ((finals events).map (Prod.map id Row.final)).map Prod.snd =
      (events.foldl apply (reset runId)).results.flatMap fun result =>
        result.metrics.map Row.final := by
    rw [results_foldl, finals, List.map_map, List.map_flatMap]
    simp only [List.map_map]
    rfl
  rw [merged_eq, foldl_setKeyed_of_nodup hrows.nodup, reports,
    List.map_append, hlives, hfinals]
  exact hrows.foldl _

/-- The table shows every module its own values exactly if no two modules
report the same key. -/
theorem listed_metrics_iff (localeCompare : String → String → Ordering)
    (runId : String) {events : List (Envelope F)}
    (h : events.Pairwise fun a b => a.seq < b.seq) :
    Listed (reportedKeys events) (shownRow events)
        (metrics localeCompare (events.foldl foldEvent (reset runId))) ↔
      KeysUnshared (reportedKeys events) := by
  rw [foldl_foldEvent_reset runId h, reportedKeys_eq, shownRow_eq]
  exact listed_iff
    ((latest_merged runId events).perm (List.mergeSort_perm _ _))

end RunView

/-! ## The table in the terminal -/

namespace View

theorem metrics_foldModuleSample (view : View F)
    (sample : ModuleSampleEvent F) (key : String) :
    ((view.foldModuleSample sample).metrics[key]?).map
        (MetricTrack.live key) =
      if sample.warmup = false ∧ sample.metricKey = key then
        some sample.live
      else
        (view.metrics[key]?).map (MetricTrack.live key) := by
  rw [foldModuleSample]
  cases sample.warmup with
  | true => rfl
  | false =>
      simp only [Bool.false_eq_true, if_false, true_and,
        Std.ExtTreeMap.getElem?_alter, metrics_updateRow]
      by_cases hkey : sample.metricKey = key
      · subst hkey
        rw [if_pos (compare_eq_iff_eq.mpr rfl), if_pos rfl]
        rfl
      · rw [if_neg (mt compare_eq_iff_eq.mp hkey), if_neg hkey]

theorem ShowsLatest.apply {view : View F} {reports : List (LiveMetric F)}
    (h : view.ShowsLatest reports) (envelope : Envelope F) :
    (view.apply envelope).ShowsLatest (reports ++
      envelope.event.chartedSample?.toList.map ModuleSampleEvent.live) := by
  obtain ⟨protocol, runId, seq, ts, monoMs, event⟩ := envelope
  intro key
  cases event with
  | moduleSample sample =>
      rw [View.apply, foldEvent, metrics_foldModuleSample, h key]
      simp only [Event.chartedSample?]
      cases sample.warmup with
      | true => simp
      | false =>
          have hconcat : latest LiveMetric.key (reports ++ [sample.live]) key =
              if sample.metricKey = key then some sample.live
              else latest LiveMetric.key reports key :=
            latest_concat reports sample.live key
          by_cases hkey : sample.metricKey = key
          · rw [if_pos ⟨rfl, hkey⟩]
            exact (hconcat.trans (if_pos hkey)).symm
          · rw [if_neg fun h => hkey h.2]
            exact (hconcat.trans (if_neg hkey)).symm
  | preflightCompleted body =>
      simp only [Event.chartedSample?, Option.toList_none, List.map_nil,
        List.append_nil]
      rw [← h key, View.apply, foldEvent, foldPreflightCompleted,
        metrics_foldl_note]
  | _ =>
      simp only [Event.chartedSample?, Option.toList_none, List.map_nil,
        List.append_nil]
      rw [← h key]
      rfl

theorem showsLatest_foldl (profile : Profile) (events : List (Envelope F)) :
    (events.foldl View.apply (View.new profile)).ShowsLatest
      ((lives events).map Prod.snd) := by
  induction events using List.reverseRecOn with
  | nil =>
      intro key
      rw [List.foldl_nil, View.new, Std.ExtTreeMap.getElem?_empty]
      rfl
  | append_singleton events e ih =>
      rw [List.foldl_append, map_snd_lives, filterMap_concat,
        List.map_append, ← map_snd_lives]
      exact ih.apply e

/-- The terminal shows every module its own live values exactly if no two
modules sample the same key. -/
theorem listed_liveMetrics_iff (profile : Profile)
    {events : List (Envelope F)}
    (h : events.Pairwise fun a b => a.seq < b.seq) :
    Listed (liveKeys events) (latestOf LiveMetric.key (lives events))
        (observer.foldAll (View.new profile) events).liveMetrics ↔
      KeysUnshared (liveKeys events) := by
  have hfold : observer.foldAll (View.new profile) events =
      events.foldl View.apply (View.new profile) := by
    rw [Observer.foldAll_eq]
    exact SequencedFold.foldl_fold_of_sorted h fun e _ => Nat.zero_le _
  rw [hfold]
  exact listed_iff (showsLatest_foldl profile events).toLatest

end View

/-! ## The two dashboards -/

/-- A dashboard loses no metric exactly as long as no two modules use the same
key. -/
theorem listed_metrics_iff_keysUnshared
    (localeCompare : String → String → Ordering) (runId : String)
    (profile : Profile) {events : List (Envelope F)}
    (h : events.Pairwise fun a b => a.seq < b.seq) :
    (Listed (reportedKeys events) (RunView.shownRow events)
        (RunView.metrics localeCompare
          (events.foldl RunView.foldEvent (RunView.reset runId))) ↔
      KeysUnshared (reportedKeys events)) ∧
    (Listed (liveKeys events) (latestOf LiveMetric.key (lives events))
        (View.observer.foldAll (View.new profile) events).liveMetrics ↔
      KeysUnshared (liveKeys events)) :=
  ⟨RunView.listed_metrics_iff localeCompare runId h,
    View.listed_liveMetrics_iff profile h⟩

/-! ## Two runtimes that measure their cold start -/

def phpRuntime : ModuleId where
  asStr := "php.runtime"
  valid := by decide

def nodeRuntime : ModuleId where
  asStr := "node.runtime"
  valid := by decide

/-- A module that samples its cold start once and completes. -/
def coldStart (id : ModuleId) (value : Float) :
    List (ClockReading × Event Float) :=
  [(⟨0, 0⟩, .moduleSample
      { module := id
        metricKey := "startup.cold"
        rep := 0
        warmup := false
        value := value
        unit := "ms"
        durationMs := value
        moduleProgress := 1.0 }),
    (⟨0, 0⟩, .moduleCompleted
      ⟨oneMetricResult id 0 (bareMetric "startup.cold" value none)⟩)]

def onlyPhp : List (Envelope Float) :=
  RunHandle.stream RunHandle.quietRun (coldStart phpRuntime 50.0)

def bothRuntimes : List (Envelope Float) :=
  RunHandle.stream RunHandle.quietRun
    (coldStart phpRuntime 50.0 ++ coldStart nodeRuntime 40.0)

theorem listed_metrics_iff_keysUnshared_onlyPhp :
    Listed (reportedKeys onlyPhp) (RunView.shownRow onlyPhp)
        (RunView.metrics compare
          (onlyPhp.foldl RunView.foldEvent (RunView.reset "run"))) ∧
      Listed (liveKeys onlyPhp) (latestOf LiveMetric.key (lives onlyPhp))
        (View.observer.foldAll (View.new .quick) onlyPhp).liveMetrics := by
  have hsorted : onlyPhp.Pairwise fun a b => a.seq < b.seq := by decide
  have hlisted := listed_metrics_iff_keysUnshared compare "run" .quick hsorted
  have howned : ∀ p ∈ reportedKeys onlyPhp, p.1 = phpRuntime := by decide
  refine ⟨hlisted.1.mpr ?_, hlisted.2.mpr ?_⟩
  · intro p hp q hq _
    rw [howned p hp, howned q hq]
  · intro p hp q hq _
    rw [howned p (List.mem_append_left _ hp),
      howned q (List.mem_append_left _ hq)]

/-- The second runtime replaces what the first one has reported. -/
theorem not_listed_bothRuntimes :
    (¬ Listed (reportedKeys bothRuntimes) (RunView.shownRow bothRuntimes)
        (RunView.metrics compare
          (bothRuntimes.foldl RunView.foldEvent (RunView.reset "run")))) ∧
      ¬ Listed (liveKeys bothRuntimes)
        (latestOf LiveMetric.key (lives bothRuntimes))
        (View.observer.foldAll (View.new .quick) bothRuntimes).liveMetrics := by
  have hsorted : bothRuntimes.Pairwise fun a b => a.seq < b.seq := by decide
  have hphp : (phpRuntime, "startup.cold") ∈ liveKeys bothRuntimes :=
    List.mem_cons_self
  have hnode : (nodeRuntime, "startup.cold") ∈ liveKeys bothRuntimes :=
    List.mem_cons_of_mem _ List.mem_cons_self
  have hne : phpRuntime ≠ nodeRuntime := by decide
  rw [RunView.listed_metrics_iff compare "run" hsorted,
    View.listed_liveMetrics_iff .quick hsorted]
  refine ⟨fun h => hne ?_, fun h => hne (h _ hphp _ hnode rfl)⟩
  exact h _ (List.mem_append_left _ hphp) _ (List.mem_append_left _ hnode) rfl

end Darcbench
