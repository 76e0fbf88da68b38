import Darcbench.Inventory.Types
import Darcbench.Protocol.Run
import Darcbench.Scoring.Model

/-!
# The result bundle format
-/

namespace Darcbench

/-- Identity of the software that produced a bundle. -/
structure BundleMeta where
  schema : String
  protocol : String
  agentVersion : String
  buildTarget : String
  /-- `release` or `debug`. -/
  buildProfile : String
  generatedAt : Timestamp
  agentBuildHash : Option String

/-- The run's own facts. -/
structure RunRecord where
  runId : RunId
  profile : Profile
  state : RunState
  startedAt : Timestamp
  finishedAt : Timestamp
  durationMs : ℕ
  modules : List ModuleRef
  /-- Digest of the environment snapshot at run start. -/
  environmentDigest : String
  /-- Digest over the full ordered event stream. -/
  eventsDigest : String
  eventCount : ℕ
  stoppedBecause : Option String
  guardsNotEnforced : List String
  comparabilityNotRecorded : List String

/-- Aggregated telemetry over the measured window. -/
structure TelemetrySummary (F : Type) where
  samples : ℕ
  cpuBusyPctMean : F
  cpuExternalBusyPctMax : F
  cpuStealPctMax : F
  cpuStealPctMean : F
  cpuIowaitPctMean : F
  load1Max : F
  memUsedBytesMax : ℕ
  swapUsedBytesMax : ℕ
  cpuFreqMhzFirst : Option F
  cpuFreqMhzLast : Option F
  cpuTempCMax : Option F
  psiCpuSomeAvg10Max : Option F

/-- What made a run slow down. -/
inductive SustainedCause where
  | sustained
  | thermalThrottling
  | burstCreditExhaustion
  | noisyNeighbour
  | undiagnosed
  deriving DecidableEq

/-- The telemetry evidence a diagnosis rests on. -/
structure SustainedEvidence (F : Type) where
  stealPctOpening : F
  stealPctClosing : F
  stealPctStddev : F
  frequencyDrop : Option F
  temperatureRiseC : Option F
  samples : ℕ

/-- Why a long run slowed down, with the evidence. -/
structure SustainedDiagnosis (F : Type) where
  cause : SustainedCause
  explanation : String
  evidence : SustainedEvidence F

/-- A detached signature over canonical bytes. -/
structure Signature where
  algorithm : String
  canonicalization : String
  /-- Base64 of the public key. -/
  publicKey : String
  /-- Base64 of the signature. -/
  value : String
  /-- Fingerprint of the public key. -/
  keyId : String
  deriving DecidableEq

/-- A complete, self-contained result. -/
structure Bundle (F : Type) [F64 F] where
  metadata : BundleMeta
  run : RunRecord
  environment : Inventory F
  modules : List (ModuleResult F)
  scores : ScoreCard F
  verdict : Verdict
  telemetry : TelemetrySummary F
  sustainedDiagnosis : Option (SustainedDiagnosis F)
  /-- Present once the bundle has been signed. -/
  signature : Option Signature

/-- The state that a purely local bundle is entitled to claim. -/
def Bundle.localResultState {F : Type} [F64 F] (bundle : Bundle F) :
    ResultState :=
  if bundle.verdict.state = .invalid then
    .invalid
  else
    match bundle.signature with
    | some _ => .selfReported
    | none => .localState

end Darcbench
