import Darcbench.Report.ScoresMatch
import Darcbench.Report.Signing
import Darcbench.Support.Dedup

/-!
# Bundle validation

The rules that decide what a result is allowed to claim.  The function of the
source is cut into its sections; each yields the reasons it raises, in order,
and whether it is fatal.
-/

namespace Darcbench

variable {F : Type} [F64 F]

def validatorVersion : String := "dbv/0.1.0"

/-- Largest coefficient of variation tolerated in a comparable metric. -/
def maxAcceptableCv : F := 0.25

structure ValidationOutcome where
  verdict : Verdict
  /-- Whether the recomputed scores matched, if they were recomputed. -/
  recomputationMatched : Option Bool
  /-- The first score field that disagreed. -/
  mismatchField : Option String
  deriving DecidableEq

/-- What a section of the ruleset found. -/
structure Findings where
  reasons : List VerdictReason
  fatal : Bool

namespace Findings

def none : Findings where
  reasons := []
  fatal := false

def downgrade (reason : VerdictReason) : Findings where
  reasons := [reason]
  fatal := false

def invalidate (reason : VerdictReason) : Findings where
  reasons := [reason]
  fatal := true

def append (a b : Findings) : Findings where
  reasons := a.reasons ++ b.reasons
  fatal := a.fatal || b.fatal

instance : Append Findings := ⟨append⟩

/-- The findings of a loop. -/
def ofList {α : Type} (judge : α → Findings) (items : List α) : Findings :=
  items.foldl (fun found item => found ++ judge item) none

end Findings

/-! ## Sections of the ruleset -/

def runCompletionFindings (run : RunRecord) : Findings :=
  match run.state with
  | .completed => .none
  | _ => .invalidate .interrupted

def schemaFindings (metadata : BundleMeta) : Findings :=
  if metadata.schema ≠ bundleSchemaVersion then
    .invalidate
      (.incompatibleBenchmarkVersion metadata.schema bundleSchemaVersion)
  else
    .none

def buildProfileFindings (metadata : BundleMeta) : Findings :=
  if metadata.buildProfile ≠ "release" then
    .downgrade
      (.incompatibleBenchmarkVersion
        ("build_profile=" ++ metadata.buildProfile) "build_profile=release")
  else
    .none

/-- Whether the variation of a metric says anything about the machine. -/
def cvIsEvidenceOfInstability (metric : Metric F) : Bool :=
  !metric.measuresDispersion && !metric.tailQuantile

/-- Whether a metric makes its module too noisy to be compared. -/
def isTooNoisy (metric : Metric F) : Bool :=
  cvIsEvidenceOfInstability metric &&
    metric.summary.isUnstable maxAcceptableCv

/-- The loop of `degradation_reason` over the warnings of a module. -/
def degradationReasonLoop (id : ModuleId) :
    List Warning → Option Warning → VerdictReason
  | [], some warning => .moduleDegraded id warning.message
  | [], none =>
      .moduleDegraded id "the module reported itself degraded without a reason"
  | warning :: rest, declared =>
      match warning.code with
      | .highVariance => .excessiveVariance id
      | .generatorSaturated => .loadGeneratorSaturated id
      | code =>
          if code.degradesResult then
            degradationReasonLoop id rest (declared.or (some warning))
          else
            degradationReasonLoop id rest declared

/-- Why a degraded module was degraded, phrased from its own warnings. -/
def degradationReason (module : ModuleResult F) : VerdictReason :=
  degradationReasonLoop module.module.id module.warnings none

def statusFindings (module : ModuleResult F) : Findings :=
  match module.status with
  | .completed => .none
  | .degraded => .downgrade (degradationReason module)
  | .failed => .downgrade (.moduleFailed module.module.id)
  | .cancelled => .invalidate .interrupted
  | .skipped => .downgrade (.requiredModuleMissing module.module.id)

/-- The first metric that is too noisy is reported, the others are not. -/
def varianceFindings (module : ModuleResult F) : Findings :=
  if module.metrics.any isTooNoisy then
    .downgrade (.excessiveVariance module.module.id)
  else
    .none

def moduleFindings (module : ModuleResult F) : Findings :=
  statusFindings module ++ varianceFindings module

/-- The metadata fields that have to be present, and whether they are. -/
def requiredMetadata (bundle : Bundle F) : List (String × Bool) :=
  [("environment.cpu.logical_cpus",
      decide (0 < bundle.environment.cpu.logicalCpus)),
    ("environment.memory.total_bytes",
      decide (0 < bundle.environment.memory.totalBytes)),
    ("run.environment_digest", bundle.run.environmentDigest ≠ ""),
    ("run.events_digest", bundle.run.eventsDigest ≠ "")]

def metadataFindings (entry : String × Bool) : Findings :=
  if entry.2 then .none else .downgrade (.missingMetadata entry.1)

def clockFindings (run : RunRecord) : Findings :=
  if run.finishedAt < run.startedAt then
    .invalidate .clockAnomaly
  else
    .none

def profileFindings (run : RunRecord) : Findings :=
  if run.profile.isStandard then .none else .downgrade .customProfile

/-- The outcome of checking the scores against a recomputation. -/
structure Recomputation (F : Type) where
  findings : Findings
  matched : Option Bool
  mismatchField : Option String
  scores : Option (ScoreCard F)

/-- Recomputes the scores with the model that the bundle names. -/
def recompute (bundle : Bundle F) : Recomputation F :=
  match ScoringModel.forVersion bundle.scores.scoringModel with
  | some model =>
      let recomputed := model.scoreRun bundle.run.profile bundle.modules
      match scoresMatch recomputed bundle.scores with
      | .ok () =>
          { findings := .none
            matched := some true
            mismatchField := none
            scores := some recomputed }
      | .error field =>
          { findings := .invalidate .scoreRecomputationMismatch
            matched := some false
            mismatchField := some field
            scores := some recomputed }
  | none =>
      { findings := .invalidate
          (.incompatibleBenchmarkVersion bundle.scores.scoringModel
            (ScoringModel.current (F := F)).version)
        matched := none
        mismatchField := none
        scores := none }

/-- The module expected to fill a category. -/
def placeholderModuleFor : CategoryKey → String
  | .compute => "cpu.mixed"
  | .memory => "memory.bandwidth"
  | .storage => "storage.mixed"
  | .network => "network.transfer"
  | .web => "web.static"
  | .database => "database.oltp"
  | .deployment => "deployment.container"

def missingCategoryFindings (category : CategoryKey) : Findings :=
  match ModuleId.fromStr (placeholderModuleFor category) with
  | .ok id => .downgrade (.requiredModuleMissing id)
  | .error _ => .none

/-! ## The verdict -/

/-- Reasons that make a run unrankable without invalidating it. -/
def isPartialReason : VerdictReason → Bool
  | .requiredModuleMissing _ | .moduleFailed _ | .excessiveVariance _
  | .moduleDegraded _ _ | .loadGeneratorSaturated _ | .errorRateExceeded
  | .incompatibleBenchmarkVersion _ _ | .missingMetadata _ => true
  | .interrupted | .clockAnomaly | .signatureInvalid
  | .scoreRecomputationMismatch | .replayDetected
  | .environmentChangedMidRun | .insufficientDiskSpace => false
  | .customProfile => false

/-- The sections that both paths apply, before the signature is looked at. -/
def commonFindings (bundle : Bundle F) : Findings :=
  runCompletionFindings bundle.run ++
    schemaFindings bundle.metadata ++
    buildProfileFindings bundle.metadata ++
    Findings.ofList moduleFindings bundle.modules ++
    Findings.ofList metadataFindings (requiredMetadata bundle) ++
    clockFindings bundle.run ++
    profileFindings bundle.run

variable [Chrono] [JsonText F] [Crypto]

def signatureFindings (bundle : Bundle F) : Findings :=
  match bundle.verifySignature with
  | .ok () => .none
  | .error _ => .invalidate .signatureInvalid

/-- Signature and recomputation, on the server path only. -/
def serverChecks (bundle : Bundle F) (serverSide : Bool) :
    Recomputation F :=
  if serverSide then
    let recomputation := recompute bundle
    { recomputation with
      findings := signatureFindings bundle ++ recomputation.findings }
  else
    { findings := .none
      matched := none
      mismatchField := none
      scores := none }

/-- The categories that the authoritative card misses. -/
def missingRequired (bundle : Bundle F) (serverSide : Bool) :
    List CategoryKey :=
  ((serverChecks bundle serverSide).scores.getD
    bundle.scores).missingRequiredCategories

/-- Everything the ruleset found, in the order in which it was raised. -/
def allFindings (bundle : Bundle F) (serverSide : Bool) : Findings :=
  commonFindings bundle ++
    (serverChecks bundle serverSide).findings ++
    Findings.ofList missingCategoryFindings
      (missingRequired bundle serverSide)

/-- The precedence of the states over the findings. -/
def resultState (bundle : Bundle F) (serverSide : Bool) (fatal : Bool)
    (reasons : List VerdictReason) : ResultState :=
  if fatal then
    .invalid
  else if !bundle.run.profile.isStandard then
    .custom
  else if !(missingRequired bundle serverSide).isEmpty ||
      reasons.any isPartialReason then
    .partialState
  else if serverSide then
    .validated
  else
    bundle.localResultState

/-- Applies the ruleset to a bundle. -/
def validateBundle (bundle : Bundle F) (serverSide : Bool) :
    ValidationOutcome :=
  let checks := serverChecks bundle serverSide
  let found := allFindings bundle serverSide
  let reasons := stableDedup found.reasons
  { verdict :=
      { state := resultState bundle serverSide found.fatal reasons
        reasons := reasons
        validatorVersion := validatorVersion }
    recomputationMatched := checks.matched
    mismatchField := checks.mismatchField }

end Darcbench
