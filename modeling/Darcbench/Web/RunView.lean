import Darcbench.Protocol.EventCodec
import Darcbench.Support.Replay

/-!
# What the browser draws

The browser client folds the event frames of a run into a view.  Frames arrive
in batches, and a batch is folded into one new view.
-/

namespace Darcbench

variable {F : Type} [F64 F]

namespace RunView

def telemetryWindow : ℕ := 180

def logLimit : ℕ := 300

structure TelemetryPoint (F : Type) where
  monoMs : ℕ
  cpuBusy : F
  cpuExternal : F
  cpuSteal : F
  load1 : F
  memUsed : ℕ
  memTotal : ℕ
  freqMhz : Option F
  tempC : Option F

structure LogLine where
  seq : ℕ
  kind : String
  text : String
  severity : Severity

structure LiveMetric (F : Type) where
  key : String
  value : F
  unit : String
  rep : ℕ

end RunView

open RunView in
/-- The render state of the dashboard. -/
structure RunView (F : Type) [F64 F] where
  runId : Option String
  /-- The state of the run.  The client is idle before it knows a run. -/
  state : Option RunState
  connected : Bool
  profile : Option Profile
  scoringModel : Option String
  uncalibrated : Bool
  risk : Option RiskClass
  preflightPassed : Option Bool
  findings : List PreflightFinding
  estimatedSeconds : Option ℕ
  currentModule : Option ModuleId
  currentPhase : Option String
  moduleIndex : ℕ
  moduleTotal : ℕ
  progress : F
  /-- One entry per key, in the order in which the keys first appeared. -/
  liveMetrics : List (LiveMetric F)
  results : List (ModuleResult F)
  telemetry : List (TelemetryPoint F)
  latest : Option (TelemetryPoint F)
  total : Option F
  categories : List (CategoryScore F)
  scoresFinal : Bool
  verdict : Option ResultState
  bundleDigest : Option String
  log : List LogLine
  lastSeq : ℤ

namespace RunView

def initial : RunView F where
  runId := none
  state := none
  connected := false
  profile := none
  scoringModel := none
  uncalibrated := true
  risk := none
  preflightPassed := none
  findings := []
  estimatedSeconds := none
  currentModule := none
  currentPhase := none
  moduleIndex := 0
  moduleTotal := 0
  progress := 0.0
  liveMetrics := []
  results := []
  telemetry := []
  latest := none
  total := none
  categories := []
  scoresFinal := false
  verdict := none
  bundleDigest := none
  log := []
  lastSeq := -1

/-- The view of a run of which nothing is known yet. -/
def reset (runId : String) : RunView F :=
  { initial with runId := some runId, state := some .created }

/-- Appends to a list that keeps its last `limit` entries. -/
def keepLast {α : Type} (limit : ℕ) (items : List α) (a : α) : List α :=
  (items ++ [a]).drop (items.length + 1 - limit)

/-- The log with one more line. -/
def logged (view : RunView F) (envelope : Envelope F) (text : String)
    (severity : Severity) : List LogLine :=
  keepLast logLimit view.log
    { seq := envelope.seq
      kind := envelope.event.kind
      text := text
      severity := severity }

def setLive (metrics : List (LiveMetric F)) (metric : LiveMetric F) :
    List (LiveMetric F) :=
  if metrics.any fun m => decide (m.key = metric.key) then
    metrics.map fun m => if m.key = metric.key then metric else m
  else
    metrics ++ [metric]

def telemetryPoint (envelope : Envelope F) (telemetry : TelemetryEvent F) :
    TelemetryPoint F where
  monoMs := envelope.monoMs
  cpuBusy := telemetry.cpuBusyPct
  cpuExternal := telemetry.cpuExternalBusyPct
  cpuSteal := telemetry.cpuStealPct
  load1 := telemetry.load1
  memUsed := telemetry.memUsedBytes
  memTotal := telemetry.memTotalBytes
  freqMhz := telemetry.cpuFreqMhz
  tempC := telemetry.cpuTempC

def foldLifecycle (view : RunView F) (life : ModuleLifecycle) : RunView F :=
  { view with
    currentModule := some life.module.id
    currentPhase := life.phase
    moduleIndex := life.index
    moduleTotal := life.total
    state := some .running }

/-- A warm-up sample is never charted as a result. -/
def foldModuleSample (view : RunView F) (sample : ModuleSampleEvent F) :
    RunView F :=
  if sample.warmup then
    { view with progress := sample.moduleProgress }
  else
    { view with
      liveMetrics := setLive view.liveMetrics
        ⟨sample.metricKey, sample.value, sample.unit, sample.rep⟩
      progress := sample.moduleProgress }

def foldPreflightCompleted (view : RunView F) (envelope : Envelope F)
    (preflight : PreflightCompleted) : RunView F :=
  { view with
    risk := some preflight.risk
    preflightPassed := some preflight.passed
    findings := preflight.findings
    estimatedSeconds := some preflight.estimatedDurationS
    state := some (if preflight.passed then .running else .failed)
    log :=
      let outcome := if preflight.passed then "passed" else "BLOCKED"
      view.logged envelope
        (s!"{RiskClass.naming.name preflight.risk} · {outcome} · " ++
          s!"~{preflight.estimatedDurationS}s · " ++
          s!"{preflight.estimatedBytesWritten} bytes written")
        (if preflight.passed then .info else .error) }

def foldScore (view : RunView F) (score : ScoreEvent F) (final : Bool) :
    RunView F :=
  { view with
    total := score.total
    categories := score.categories
    uncalibrated := score.uncalibrated
    scoresFinal := final }

def foldRunCompleted (view : RunView F) (envelope : Envelope F)
    (completed : RunCompleted) : RunView F :=
  let state := RunState.naming.name completed.state
  let verdict := ResultState.naming.name completed.verdict.state
  { view with
    state := some completed.state
    verdict := some completed.verdict.state
    progress := 1.0
    log :=
      view.logged envelope
        (s!"{state} · verdict {verdict} · " ++
          s!"{completed.modulesCompleted} completed, " ++
          s!"{completed.modulesFailed} failed")
        (if completed.state = .completed then .info else .warning) }

/-- What an event changes, its number apart. -/
def foldBody (view : RunView F) (envelope : Envelope F) : RunView F :=
  match envelope.event with
  | .runCreated created =>
      { view with
        profile := some created.profile
        scoringModel := some created.scoringModel
        moduleTotal := created.modules.length
        state := some .preflight
        log := view.logged envelope
          (s!"{Profile.naming.name created.profile} · " ++
            s!"{created.modules.length} module(s) · " ++
            s!"agent {created.agentVersion}") .info }
  | .preflightCompleted preflight =>
      view.foldPreflightCompleted envelope preflight
  | .moduleQueued life | .modulePreparing life | .moduleWarmup life
  | .moduleStarted life => view.foldLifecycle life
  | .moduleSample sample => view.foldModuleSample sample
  | .moduleTelemetry telemetry =>
      let point := telemetryPoint envelope telemetry
      { view with
        latest := some point
        telemetry := keepLast telemetryWindow view.telemetry point }
  | .moduleWarning warning =>
      { view with
        log := view.logged envelope
          (s!"{WarningCode.naming.name warning.warning.code}: " ++
            warning.warning.message) .warning }
  | .moduleCompleted completed =>
      { view with
        results := view.results ++ [completed.result]
        log := view.logged envelope
          (s!"{completed.result.module.id.asStr} · " ++
            ModuleStatus.naming.name completed.result.status) .info }
  | .moduleFailed failed =>
      { view with
        log := view.logged envelope
          s!"{failed.module.id.asStr}: {failed.error}" .error }
  | .scoreProvisional score => view.foldScore score false
  | .scoreFinal score => view.foldScore score true
  | .reportGenerated report =>
      { view with
        bundleDigest := some report.bundleSha256
        log := view.logged envelope
          (", ".intercalate report.formats ++ s!" · {report.bytes} bytes")
          .info }
  | .runCompleted completed => view.foldRunCompleted envelope completed
  | .runInvalidated invalidated =>
      { view with
        state := some .failed
        verdict := some invalidated.verdict.state }
  | .preflightStarted _ | .moduleCancelled _ | .heartbeat _ => view

/-- Folds a frame that is not skipped. -/
def apply (view : RunView F) (envelope : Envelope F) : RunView F :=
  { view with lastSeq := envelope.seq }.foldBody envelope

/-- Folds a frame, unless its number was reached before. -/
def foldEvent (view : RunView F) (envelope : Envelope F) : RunView F :=
  if (envelope.seq : ℤ) ≤ view.lastSeq then view else view.apply envelope

inductive Action (F : Type) [F64 F] where
  | reset (runId : String)
  | connection (connected : Bool)
  | events (events : List (Envelope F))

def reduce (view : RunView F) : Action F → RunView F
  | .reset runId => reset runId
  | .connection connected => { view with connected := connected }
  | .events events => events.foldl foldEvent view

/-! ## The view as a fold over numbered frames -/

theorem lastSeq_foldModuleSample (view : RunView F)
    (sample : ModuleSampleEvent F) :
    (view.foldModuleSample sample).lastSeq = view.lastSeq := by
  rw [foldModuleSample]
  split <;> rfl

/-- No event touches the number of the last one. -/
theorem lastSeq_foldBody (view : RunView F) (envelope : Envelope F) :
    (view.foldBody envelope).lastSeq = view.lastSeq := by
  obtain ⟨protocol, runId, seq, ts, monoMs, event⟩ := envelope
  cases event with
  | moduleSample sample => exact view.lastSeq_foldModuleSample sample
  | preflightCompleted body => rfl
  | scoreProvisional body => rfl
  | scoreFinal body => rfl
  | runCompleted body => rfl
  | _ => simp only [foldBody, foldLifecycle]

theorem lastSeq_apply (view : RunView F) (envelope : Envelope F) :
    (view.apply envelope).lastSeq = envelope.seq :=
  lastSeq_foldBody _ _

/-- The number that the view waits for. -/
def next (view : RunView F) : ℕ :=
  (view.lastSeq + 1).toNat

def toSequencedFold : SequencedFold (RunView F) (Envelope F) where
  seq := Envelope.seq
  next := next
  apply := apply
  next_apply view envelope := by
    rw [next, lastSeq_apply]
    omega

theorem foldEvent_eq (view : RunView F) (envelope : Envelope F) :
    view.foldEvent envelope = toSequencedFold.fold view envelope := by
  rw [foldEvent, SequencedFold.fold]
  refine if_congr ?_ rfl rfl
  rw [show toSequencedFold.next view = (view.lastSeq + 1).toNat from rfl,
    show toSequencedFold.seq envelope = envelope.seq from rfl]
  omega

theorem next_foldEvent (view : RunView F) (envelope : Envelope F) :
    (view.foldEvent envelope).next = max view.next (envelope.seq + 1) := by
  rw [foldEvent_eq]
  exact toSequencedFold.next_fold view envelope

end RunView

end Darcbench
