import Darcbench.Protocol.Ids

/-!
# Run lifecycle, profiles, and the result-trust model
-/

namespace Darcbench

/-- Lifecycle state of a run inside the agent. -/
inductive RunState where
  | created
  | preflight
  | running
  | finalizing
  | completed
  | failed
  | cancelled
  deriving DecidableEq

def RunState.isTerminal : RunState → Bool
  | completed | failed | cancelled => true
  | created | preflight | running | finalizing => false

/-- The derived debug form. -/
def RunState.debug : RunState → String
  | created => "Created"
  | preflight => "Preflight"
  | running => "Running"
  | finalizing => "Finalizing"
  | completed => "Completed"
  | failed => "Failed"
  | cancelled => "Cancelled"

/-- A named bundle of modules and run parameters. -/
inductive Profile where
  | quick
  | standard
  | deep
  | endurance
  | readOnly
  | webOnly
  | custom
  deriving DecidableEq

/-- Whether a run of this profile may claim a comparable total score. -/
def Profile.isStandard : Profile → Bool
  | custom | readOnly => false
  | quick | standard | deep | endurance | webOnly => true

/-- How much a consumer of a result is entitled to trust it. -/
inductive ResultState where
  | localState
  | selfReported
  | validated
  | verified
  | official
  | invalid
  | partialState
  | custom
  deriving DecidableEq

/-- Whether this state may appear in leaderboards and aggregates. -/
def ResultState.isRankable : ResultState → Bool
  | validated | verified | official => true
  | localState | selfReported | invalid | partialState | custom => false

/-- The derived debug form. -/
def ResultState.debug : ResultState → String
  | localState => "Local"
  | selfReported => "SelfReported"
  | validated => "Validated"
  | verified => "Verified"
  | official => "Official"
  | invalid => "Invalid"
  | partialState => "Partial"
  | custom => "Custom"

/-- A single, typed reason a run was downgraded or invalidated. -/
inductive VerdictReason where
  | requiredModuleMissing (module : ModuleId)
  | moduleFailed (module : ModuleId)
  | excessiveVariance (module : ModuleId)
  | moduleDegraded (module : ModuleId) (reason : String)
  | loadGeneratorSaturated (module : ModuleId)
  | environmentChangedMidRun
  | clockAnomaly
  | errorRateExceeded
  | insufficientDiskSpace
  | interrupted
  | missingMetadata (field : String)
  | customProfile
  | incompatibleBenchmarkVersion (found expected : String)
  | signatureInvalid
  | scoreRecomputationMismatch
  | replayDetected
  deriving DecidableEq

/-- The outcome of validating a run. -/
structure Verdict where
  state : ResultState
  reasons : List VerdictReason
  validatorVersion : String
  deriving DecidableEq

/-- Version of the real-time event protocol. -/
def protocolVersion : String := "darcbench.events/1"

/-- Version of the result bundle schema. -/
def bundleSchemaVersion : String := "darcbench.bundle/1"

end Darcbench
