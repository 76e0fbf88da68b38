import Darcbench.Agent.Observer

/-!
# What the terminal dashboard draws

The dashboard folds the event stream into a view.  The fold is kept apart from
the drawing, so that the redraw rate does not depend on the event rate.
-/

namespace Darcbench

variable {F : Type}

namespace View

/-- Samples kept per metric. -/
def history : ℕ := 64

/-- Telemetry points kept. -/
def telemetryHistory : ℕ := 120

/-- Log lines kept. -/
def logLines : ℕ := 200

inductive Phase where
  | queued
  | preparing
  | warmup
  | running
  | done (status : ModuleStatus)
  deriving DecidableEq

/-- The row of one module. -/
structure ModuleRow (F : Type) where
  id : ModuleId
  phase : Phase
  progress : F

/-- A live metric and the tail of its samples. -/
structure MetricTrack (F : Type) where
  value : F
  unit : String
  rep : ℕ
  history : List F
  /-- Stamp of the last sample folded into this track. -/
  updated : ℕ

structure TelemetryPoint (F : Type) where
  cpuBusy : F
  cpuExternal : F
  cpuSteal : F
  memUsed : ℕ
  memTotal : ℕ
  load1 : F
  freqMhz : Option F
  tempC : Option F

end View

open View in
/-- Everything that the dashboard draws from the event stream. -/
structure View (F : Type) where
  profile : Profile
  modules : List (ModuleRow F)
  metrics : BTreeMap String (MetricTrack F)
  telemetry : List (TelemetryPoint F)
  log : List (Severity × String)
  categories : List (String × F)
  total : Option F
  uncalibrated : Bool
  scoresFinal : Bool
  risk : Option String
  state : RunState
  cancelling : Bool
  /-- Highest sequence number folded. -/
  lastSeq : Option ℕ
  /-- Counts folded samples. -/
  metricClock : ℕ

/-- The derived debug form. -/
def RiskClass.debug : RiskClass → String
  | safe => "Safe"
  | moderateLoad => "ModerateLoad"
  | heavyLoad => "HeavyLoad"
  | productionRisk => "ProductionRisk"
  | unsupported => "Unsupported"

/-- The derived debug form. -/
def ModuleStatus.debug : ModuleStatus → String
  | completed => "Completed"
  | degraded => "Degraded"
  | failed => "Failed"
  | cancelled => "Cancelled"
  | skipped => "Skipped"

namespace View

def new (profile : Profile) : View F where
  profile := profile
  modules := []
  metrics := ∅
  telemetry := []
  log := []
  categories := []
  total := none
  uncalibrated := true
  scoresFinal := false
  risk := none
  state := .created
  cancelling := false
  lastSeq := none
  metricClock := 0

def note (view : View F) (severity : Severity) (text : String) : View F :=
  { view with log := pushBounded logLines view.log (severity, text) }

/-- Changes the first row of a module, if there is one. -/
def updateRow (view : View F) (id : ModuleId)
    (f : ModuleRow F → ModuleRow F) : View F :=
  { view with
    modules := view.modules.modify
      (view.modules.findIdx fun row => decide (row.id = id)) f }

def setPhase (view : View F) (id : ModuleId) (phase : Phase) : View F :=
  view.updateRow id fun row => { row with phase := phase }

@[simp] theorem lastSeq_note (view : View F) (severity : Severity)
    (text : String) :
    (view.note severity text).lastSeq = view.lastSeq :=
  rfl

@[simp] theorem lastSeq_updateRow (view : View F) (id : ModuleId)
    (f : ModuleRow F → ModuleRow F) :
    (view.updateRow id f).lastSeq = view.lastSeq :=
  rfl

@[simp] theorem lastSeq_setPhase (view : View F) (id : ModuleId)
    (phase : Phase) :
    (view.setPhase id phase).lastSeq = view.lastSeq :=
  rfl

/-! ## One event -/

def foldPreflightCompleted (view : View F) (preflight : PreflightCompleted) :
    View F :=
  (preflight.findings.filter PreflightFinding.blocking).foldl
    (fun view finding =>
      view.note .error s!"{finding.check}: {finding.message}")
    { view with
      risk := some preflight.risk.debug
      state := if preflight.passed then .running else .failed }

theorem foldl_note (findings : List PreflightFinding) (view : View F) :
    let noted := findings.foldl
      (fun view finding =>
        view.note .error s!"{finding.check}: {finding.message}") view
    noted.lastSeq = view.lastSeq ∧ noted.state = view.state := by
  induction findings generalizing view with
  | nil => exact ⟨rfl, rfl⟩
  | cons finding rest ih => exact ih _

theorem lastSeq_foldPreflightCompleted (view : View F)
    (preflight : PreflightCompleted) :
    (view.foldPreflightCompleted preflight).lastSeq = view.lastSeq :=
  (foldl_note _ _).1

theorem state_foldPreflightCompleted (view : View F)
    (preflight : PreflightCompleted) :
    (view.foldPreflightCompleted preflight).state =
      if preflight.passed then .running else .failed :=
  (foldl_note _ _).2

variable [F64 F]

def foldRunCreated (view : View F) (created : RunCreated) : View F :=
  { view with
    profile := created.profile
    modules := created.modules.map fun module =>
      { id := module.id, phase := .queued, progress := 0.0 }
    state := .preflight }

/-- A warm-up sample moves the progress bar and is not charted. -/
def foldModuleSample (view : View F) (sample : ModuleSampleEvent F) : View F :=
  let view := view.updateRow sample.module fun row =>
    { row with
      progress := F64.clamp sample.moduleProgress 0.0 1.0
      phase :=
        if row.phase = .preparing then
          if sample.warmup then .warmup else .running
        else
          row.phase }
  if sample.warmup then
    view
  else
    let stamp := (view.metricClock + 1) % 2 ^ 64
    { view with
      metricClock := stamp
      metrics := view.metrics.alter sample.metricKey fun track =>
        some
          { value := sample.value
            unit := sample.unit
            rep := sample.rep
            updated := stamp
            history := pushBounded history
              ((track.map MetricTrack.history).getD []) sample.value } }

def foldTelemetry (view : View F) (telemetry : TelemetryEvent F) : View F :=
  { view with
    telemetry := pushBounded telemetryHistory view.telemetry
      { cpuBusy := telemetry.cpuBusyPct
        cpuExternal := telemetry.cpuExternalBusyPct
        cpuSteal := telemetry.cpuStealPct
        memUsed := telemetry.memUsedBytes
        memTotal := telemetry.memTotalBytes
        load1 := telemetry.load1
        freqMhz := telemetry.cpuFreqMhz
        tempC := telemetry.cpuTempC } }

def completionSeverity : ModuleStatus → Severity
  | .completed => .info
  | .failed | .cancelled => .error
  | .degraded | .skipped => .warning

def foldModuleCompleted (view : View F) (completed : ModuleCompletedEvent F) :
    View F :=
  let result := completed.result
  (view.updateRow result.module.id fun row =>
    { row with phase := .done result.status, progress := 1.0 }).note
      (completionSeverity result.status)
      s!"{result.module.id.asStr} {result.status.debug}"

def foldScore (view : View F) (score : ScoreEvent F) : View F :=
  { view with
    categories := score.categories.map fun category =>
      (category.label, category.score)
    total := score.total
    uncalibrated := score.uncalibrated
    scoresFinal := !score.provisional }

/-- What an event changes, its number apart. -/
def foldEvent (view : View F) : Event F → View F
  | .runCreated created => view.foldRunCreated created
  | .preflightCompleted preflight => view.foldPreflightCompleted preflight
  | .moduleQueued life => view.setPhase life.module.id .queued
  | .modulePreparing life => view.setPhase life.module.id .preparing
  | .moduleWarmup life => view.setPhase life.module.id .warmup
  | .moduleStarted life =>
      { view.setPhase life.module.id .running with state := .running }
  | .moduleSample sample => view.foldModuleSample sample
  | .moduleTelemetry telemetry => view.foldTelemetry telemetry
  | .moduleWarning warning =>
      view.note .warning s!"{warning.module.asStr}: {warning.warning.message}"
  | .moduleCompleted completed => view.foldModuleCompleted completed
  | .moduleFailed failed =>
      (view.setPhase failed.module.id (.done .failed)).note .error
        s!"{failed.module.id.asStr}: {failed.error}"
  | .moduleCancelled life => view.setPhase life.module.id (.done .cancelled)
  | .scoreProvisional score | .scoreFinal score => view.foldScore score
  | .runCompleted completed => { view with state := completed.state }
  | .runInvalidated _ => { view with state := .failed }
  | .preflightStarted _ | .reportGenerated _ | .heartbeat _ => view

/-- Folds one envelope that was not seen before. -/
def apply (view : View F) (envelope : Envelope F) : View F :=
  { view with lastSeq := some envelope.seq }.foldEvent envelope.event

/-! ## The view as an observer -/

theorem lastSeq_foldModuleSample (view : View F)
    (sample : ModuleSampleEvent F) :
    (view.foldModuleSample sample).lastSeq = view.lastSeq := by
  rw [foldModuleSample]
  split <;> rfl

/-- No event touches the number of the last one. -/
@[simp] theorem lastSeq_foldEvent (view : View F) (event : Event F) :
    (view.foldEvent event).lastSeq = view.lastSeq := by
  cases event with
  | preflightCompleted body => exact view.lastSeq_foldPreflightCompleted body
  | moduleSample body => exact view.lastSeq_foldModuleSample body
  | _ => rfl

/-- The dashboard as an observer. -/
def observer : Observer (View F) F where
  lastSeq := View.lastSeq
  apply := apply
  lastSeq_apply _ _ := lastSeq_foldEvent _ _

/-- Folds one envelope.  Replayed envelopes are ignored by their numbers. -/
def fold (view : View F) (envelope : Envelope F) : View F :=
  observer.fold view envelope

/-! ## Terminal states -/

theorem state_foldModuleSample (view : View F) (sample : ModuleSampleEvent F) :
    (view.foldModuleSample sample).state = view.state := by
  rw [foldModuleSample]
  split <;> rfl

/-- Only a terminal event and a refused preflight make the state of the view
terminal. -/
theorem terminal_or_refusal_of_apply {view : View F} {envelope : Envelope F}
    (h : (view.apply envelope).state.isTerminal = true) :
    envelope.event.isStreamTerminal = true ∨
      envelope.event.isRefusal = true ∨ view.state.isTerminal = true := by
  obtain ⟨protocol, runId, seq, ts, monoMs, event⟩ := envelope
  cases event with
  | runCompleted body => exact .inl rfl
  | runInvalidated body => exact .inl rfl
  | preflightCompleted body =>
      have hstate := state_foldPreflightCompleted
        { view with lastSeq := some seq } body
      rw [apply, foldEvent, hstate] at h
      refine .inr (.inl ?_)
      cases hpassed : body.passed with
      | true => exact absurd h (by rw [hpassed]; decide)
      | false => rw [Event.isRefusal, hpassed]; rfl
  | moduleSample body =>
      rw [apply, foldEvent, state_foldModuleSample] at h
      exact .inr (.inr h)
  | runCreated body => exact absurd h Bool.false_ne_true
  | moduleStarted body => exact absurd h Bool.false_ne_true
  | _ => exact .inr (.inr h)

theorem terminal_or_refusal_of_foldl {view : View F}
    {events : List (Envelope F)}
    (h : (events.foldl apply view).state.isTerminal = true)
    (hview : view.state.isTerminal = false) :
    (∃ e ∈ events, e.event.isStreamTerminal = true) ∨
      ∃ e ∈ events, e.event.isRefusal = true := by
  induction events using List.reverseRecOn with
  | nil => exact absurd (hview.symm.trans h) Bool.false_ne_true
  | append_singleton events e ih =>
      have hmem : e ∈ events ++ [e] :=
        List.mem_append_right _ (List.mem_singleton_self e)
      rw [List.foldl_append] at h
      rcases terminal_or_refusal_of_apply h with hend | hrefusal | hbefore
      · exact .inl ⟨e, hmem, hend⟩
      · exact .inr ⟨e, hmem, hrefusal⟩
      · exact (ih hbefore).imp
          (fun ⟨a, ha, hend⟩ => ⟨a, List.mem_append_left _ ha, hend⟩)
          fun ⟨a, ha, hrefusal⟩ => ⟨a, List.mem_append_left _ ha, hrefusal⟩

/-! ## Heartbeats -/

theorem state_fold_of_heartbeat {body : Heartbeat} (view : View F)
    {envelope : Envelope F} (h : envelope.event = .heartbeat body) :
    (view.fold envelope).state = view.state ∧
      (view.apply envelope).state = view.state := by
  have happly : (view.apply envelope).state = view.state := by
    rw [apply, h]
    rfl
  refine ⟨?_, happly⟩
  rw [fold, Observer.fold]
  split
  · split
    · rfl
    · exact happly
  · exact happly

/-- Heartbeats leave the state of the view alone, folded or applied. -/
theorem state_foldl_of_heartbeat {body : Heartbeat} (view : View F)
    {events : List (Envelope F)}
    (h : ∀ e ∈ events, e.event = .heartbeat body) :
    (observer.foldAll view events).state = view.state ∧
      (events.foldl apply view).state = view.state := by
  induction events generalizing view with
  | nil => exact ⟨rfl, rfl⟩
  | cons e rest ih =>
      have hhead := state_fold_of_heartbeat view (h e List.mem_cons_self)
      have hrest (view : View F) := ih view
        fun a ha => h a (List.mem_cons_of_mem _ ha)
      exact ⟨((hrest _).1).trans hhead.1, ((hrest _).2).trans hhead.2⟩

end View

end Darcbench
