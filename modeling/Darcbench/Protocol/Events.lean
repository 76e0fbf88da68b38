import Darcbench.Protocol.Metrics
import Darcbench.Protocol.Run

/-!
# The real-time event stream

What a run announces while it is in flight.  Every event travels in an envelope
that carries the sequence number observers order the stream by.
-/

namespace Darcbench

variable {F : Type} [F64 F]

structure RunCreated where
  profile : Profile
  modules : List ModuleRef
  agentVersion : String
  scoringModel : String
  /-- Fingerprint of the environment snapshot taken at run start. -/
  environmentDigest : String

structure PreflightStarted where
  checks : List String

/-- How disruptive running a profile on a machine is expected to be. -/
inductive RiskClass where
  | safe
  | moderateLoad
  | heavyLoad
  | productionRisk
  | unsupported
  deriving DecidableEq

inductive Severity where
  | info
  | warning
  | error
  deriving DecidableEq

structure PreflightFinding where
  check : String
  severity : Severity
  message : String
  /-- True when this finding alone blocks the run from starting. -/
  blocking : Bool

structure PreflightCompleted where
  risk : RiskClass
  passed : Bool
  findings : List PreflightFinding
  estimatedDurationS : ℕ
  estimatedBytesWritten : ℕ
  estimatedNetworkBytes : ℕ
  estimatedPeakMemoryBytes : ℕ
  estimatedWriteVolumeBytes : ℕ

structure ModuleLifecycle where
  module : ModuleRef
  /-- Position of this module in the run's execution order. -/
  index : ℕ
  total : ℕ
  phase : Option String

structure ModuleSampleEvent (F : Type) where
  module : ModuleId
  metricKey : String
  rep : ℕ
  warmup : Bool
  value : F
  unit : String
  durationMs : F
  /-- Fraction of this module's work completed. -/
  moduleProgress : F

/-- Low-rate system telemetry sampled while a module runs. -/
structure TelemetryEvent (F : Type) where
  module : Option ModuleId
  cpuBusyPct : F
  cpuExternalBusyPct : F
  cpuStealPct : F
  cpuIowaitPct : F
  load1 : F
  memUsedBytes : ℕ
  memTotalBytes : ℕ
  swapUsedBytes : ℕ
  cpuFreqMhz : Option F
  cpuTempC : Option F
  psiCpuSomeAvg10 : Option F
  psiIoSomeAvg10 : Option F
  psiMemSomeAvg10 : Option F
  diskReadBytesPerS : ℕ
  diskWriteBytesPerS : ℕ
  netRxBytesPerS : ℕ
  netTxBytesPerS : ℕ

structure ModuleWarningEvent where
  module : ModuleId
  warning : Warning

structure ModuleCompletedEvent (F : Type) [F64 F] where
  result : ModuleResult F

structure ModuleFailedEvent where
  module : ModuleRef
  error : String
  fatal : Bool

structure CategoryScore (F : Type) where
  key : String
  label : String
  score : F
  weight : F

structure ScoreEvent (F : Type) where
  scoringModel : String
  /-- True while modules are still outstanding. -/
  provisional : Bool
  total : Option F
  categories : List (CategoryScore F)
  uncalibrated : Bool

structure ReportGenerated where
  formats : List String
  bundleSha256 : String
  bytes : ℕ

structure RunCompleted where
  state : RunState
  verdict : Verdict
  durationMs : ℕ
  modulesCompleted : ℕ
  modulesFailed : ℕ
  /-- Number of events emitted before this one. -/
  finalSeq : ℕ

structure RunInvalidated where
  verdict : Verdict

structure Heartbeat where
  state : RunState
  lastSeq : ℕ

/-- All event bodies. -/
inductive Event (F : Type) [F64 F] where
  | runCreated (body : RunCreated)
  | preflightStarted (body : PreflightStarted)
  | preflightCompleted (body : PreflightCompleted)
  | moduleQueued (body : ModuleLifecycle)
  | modulePreparing (body : ModuleLifecycle)
  | moduleWarmup (body : ModuleLifecycle)
  | moduleStarted (body : ModuleLifecycle)
  | moduleSample (body : ModuleSampleEvent F)
  | moduleTelemetry (body : TelemetryEvent F)
  | moduleWarning (body : ModuleWarningEvent)
  | moduleCompleted (body : ModuleCompletedEvent F)
  | moduleFailed (body : ModuleFailedEvent)
  | moduleCancelled (body : ModuleLifecycle)
  | scoreProvisional (body : ScoreEvent F)
  | scoreFinal (body : ScoreEvent F)
  | reportGenerated (body : ReportGenerated)
  | runCompleted (body : RunCompleted)
  | runInvalidated (body : RunInvalidated)
  | heartbeat (body : Heartbeat)

namespace Event

/-- The variants of an event. -/
inductive Kind where
  | runCreated
  | preflightStarted
  | preflightCompleted
  | moduleQueued
  | modulePreparing
  | moduleWarmup
  | moduleStarted
  | moduleSample
  | moduleTelemetry
  | moduleWarning
  | moduleCompleted
  | moduleFailed
  | moduleCancelled
  | scoreProvisional
  | scoreFinal
  | reportGenerated
  | runCompleted
  | runInvalidated
  | heartbeat
  deriving DecidableEq

def Kind.name : Kind → String
  | runCreated => "run.created"
  | preflightStarted => "run.preflight.started"
  | preflightCompleted => "run.preflight.completed"
  | moduleQueued => "module.queued"
  | modulePreparing => "module.preparing"
  | moduleWarmup => "module.warmup"
  | moduleStarted => "module.started"
  | moduleSample => "module.sample"
  | moduleTelemetry => "module.telemetry"
  | moduleWarning => "module.warning"
  | moduleCompleted => "module.completed"
  | moduleFailed => "module.failed"
  | moduleCancelled => "module.cancelled"
  | scoreProvisional => "score.provisional"
  | scoreFinal => "score.final"
  | reportGenerated => "report.generated"
  | runCompleted => "run.completed"
  | runInvalidated => "run.invalidated"
  | heartbeat => "stream.heartbeat"

/-- The data a variant carries. -/
def Kind.Body (F : Type) [F64 F] : Kind → Type
  | runCreated => RunCreated
  | preflightStarted => PreflightStarted
  | preflightCompleted => PreflightCompleted
  | moduleQueued | modulePreparing | moduleWarmup | moduleStarted
  | moduleCancelled => ModuleLifecycle
  | moduleSample => ModuleSampleEvent F
  | moduleTelemetry => TelemetryEvent F
  | moduleWarning => ModuleWarningEvent
  | moduleCompleted => ModuleCompletedEvent F
  | moduleFailed => ModuleFailedEvent
  | scoreProvisional | scoreFinal => ScoreEvent F
  | reportGenerated => ReportGenerated
  | runCompleted => RunCompleted
  | runInvalidated => RunInvalidated
  | heartbeat => Heartbeat

/-- An event as its variant and the data of the variant. -/
def equivSigma : Event F ≃ (kind : Kind) × kind.Body F where
  toFun
    | runCreated body => ⟨.runCreated, body⟩
    | preflightStarted body => ⟨.preflightStarted, body⟩
    | preflightCompleted body => ⟨.preflightCompleted, body⟩
    | moduleQueued body => ⟨.moduleQueued, body⟩
    | modulePreparing body => ⟨.modulePreparing, body⟩
    | moduleWarmup body => ⟨.moduleWarmup, body⟩
    | moduleStarted body => ⟨.moduleStarted, body⟩
    | moduleSample body => ⟨.moduleSample, body⟩
    | moduleTelemetry body => ⟨.moduleTelemetry, body⟩
    | moduleWarning body => ⟨.moduleWarning, body⟩
    | moduleCompleted body => ⟨.moduleCompleted, body⟩
    | moduleFailed body => ⟨.moduleFailed, body⟩
    | moduleCancelled body => ⟨.moduleCancelled, body⟩
    | scoreProvisional body => ⟨.scoreProvisional, body⟩
    | scoreFinal body => ⟨.scoreFinal, body⟩
    | reportGenerated body => ⟨.reportGenerated, body⟩
    | runCompleted body => ⟨.runCompleted, body⟩
    | runInvalidated body => ⟨.runInvalidated, body⟩
    | heartbeat body => ⟨.heartbeat, body⟩
  invFun
    | ⟨.runCreated, body⟩ => runCreated body
    | ⟨.preflightStarted, body⟩ => preflightStarted body
    | ⟨.preflightCompleted, body⟩ => preflightCompleted body
    | ⟨.moduleQueued, body⟩ => moduleQueued body
    | ⟨.modulePreparing, body⟩ => modulePreparing body
    | ⟨.moduleWarmup, body⟩ => moduleWarmup body
    | ⟨.moduleStarted, body⟩ => moduleStarted body
    | ⟨.moduleSample, body⟩ => moduleSample body
    | ⟨.moduleTelemetry, body⟩ => moduleTelemetry body
    | ⟨.moduleWarning, body⟩ => moduleWarning body
    | ⟨.moduleCompleted, body⟩ => moduleCompleted body
    | ⟨.moduleFailed, body⟩ => moduleFailed body
    | ⟨.moduleCancelled, body⟩ => moduleCancelled body
    | ⟨.scoreProvisional, body⟩ => scoreProvisional body
    | ⟨.scoreFinal, body⟩ => scoreFinal body
    | ⟨.reportGenerated, body⟩ => reportGenerated body
    | ⟨.runCompleted, body⟩ => runCompleted body
    | ⟨.runInvalidated, body⟩ => runInvalidated body
    | ⟨.heartbeat, body⟩ => heartbeat body
  left_inv a := by cases a <;> rfl
  right_inv
    | ⟨kind, _⟩ => by cases kind <;> rfl

/-- The tag of the event on the wire. -/
def kind (event : Event F) : String :=
  (equivSigma event).1.name

/-- Whether a client can stop listening after this event. -/
def isStreamTerminal : Event F → Bool
  | runCompleted _ | runInvalidated _ => true
  | _ => false

/-- Whether this event refuses the run before it begins. -/
def isRefusal : Event F → Bool
  | preflightCompleted preflight => !preflight.passed
  | _ => false

end Event

/-- The outer frame carried by every transport. -/
structure Envelope (F : Type) [F64 F] where
  protocol : String
  runId : RunId
  /-- Sequence number within the run, from zero on. -/
  seq : ℕ
  ts : Timestamp
  /-- Milliseconds on the monotonic clock since run start. -/
  monoMs : ℕ
  event : Event F

end Darcbench
