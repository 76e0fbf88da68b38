import Darcbench.Protocol.Ids
import Darcbench.Protocol.Stats
import Darcbench.Protocol.Value
import Darcbench.Support.BTreeMap

/-!
# Raw measurement records

What a module measured, in physical units, with every repetition retained, and
the typed warnings it raised.
-/

namespace Darcbench

/-- Whether a larger raw value means better performance. -/
inductive Direction where
  | higherIsBetter
  | lowerIsBetter
  deriving DecidableEq

/-- One timed repetition of one workload. -/
structure MetricSample (F : Type) where
  rep : ℕ
  value : F
  durationMs : F
  warmup : Bool

/-- A fully summarised measurement. -/
structure Metric (F : Type) where
  key : String
  label : String
  unit : String
  direction : Direction
  value : F
  summary : Summary F
  samples : List (MetricSample F)
  outliers : List ℕ
  /-- The metric measures dispersion, so its variation is its subject. -/
  measuresDispersion : Bool
  /-- The metric is an extreme order statistic such as a p99. -/
  tailQuantile : Bool

/-- Why a module did not produce a usable result, if it did not. -/
inductive ModuleStatus where
  | completed
  | degraded
  | failed
  | cancelled
  | skipped
  deriving DecidableEq

/-- Whether the metrics of a result with this status are scored at all. -/
def ModuleStatus.isScoreable : ModuleStatus → Bool
  | completed | degraded => true
  | failed | cancelled | skipped => false

inductive WarningCode where
  | highVariance
  | stealTimeObserved
  | frequencyDrop
  | thermalThrottle
  | preexistingLoad
  | externalLoad
  | memoryPressure
  | containerScoped
  | validationFailed
  | generatorSaturated
  | informational
  deriving DecidableEq

/-- Whether the observation means that the measurement is not clean. -/
def WarningCode.degradesResult : WarningCode → Bool
  | highVariance | validationFailed | memoryPressure | thermalThrottle
  | externalLoad | generatorSaturated => true
  | stealTimeObserved | frequencyDrop | preexistingLoad | containerScoped
  | informational => false

/-- A structured warning. -/
structure Warning where
  code : WarningCode
  message : String
  metricKey : Option String
  deriving DecidableEq

/-- Nanoseconds since the epoch: the type `DateTime<Utc>`. -/
abbrev Timestamp : Type := ℤ

/-- Everything one module produced during a run. -/
structure ModuleResult (F : Type) [F64 F] where
  module : ModuleRef
  status : ModuleStatus
  /-- Which pass over the module set produced this result. -/
  cycle : ℕ
  startedAt : Timestamp
  finishedAt : Timestamp
  durationMs : F
  metrics : List (Metric F)
  warnings : List Warning
  error : Option String
  /-- Free-form module context, used for comparability checks. -/
  context : BTreeMap String (Value F)

end Darcbench
