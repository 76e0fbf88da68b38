import Darcbench.Protocol.Metrics
import Darcbench.Protocol.Run
import Darcbench.Support.Fields

/-!
# Serialised form of the protocol types

One codec for each serialised type, with the member names, the defaults and the
omitted members of the source.
-/

namespace Darcbench

/-- Text representation of timestamps, as the date library provides it. -/
class Chrono where
  format : Timestamp → String
  parse : String → Option Timestamp
  parse_format : ∀ t, parse (format t) = some t

variable {F : Type} [F64 F] {P : Type}

/-! ## Scalars -/

/-- The literal of a finite float. -/
def toLiteral (x : F) : Option (Number F) :=
  if h : F64.isFinite x = true then some (.float x h) else none

/-- The float a literal stands for.  Integers are accepted where a float is
expected. -/
def ofLiteral : Number F → Option F
  | .posInt n =>
      let x := F64.ofNat n
      if F64.isFinite x then some x else none
  | .negInt n =>
      let x := 0.0 - F64.ofNat (n + 1)
      if F64.isFinite x then some x else none
  | .float x _ => some x

theorem toLiteral_isSome_iff (x : F) :
    (toLiteral x).isSome ↔ F64.isFinite x = true := by
  rw [toLiteral]
  split <;> simp_all

theorem ofLiteral_of_toLiteral (x : F) (n : Number F)
    (h : toLiteral x = some n) :
    ofLiteral n = some x := by
  rw [toLiteral] at h
  split at h
  · rw [← Option.some.inj h, ofLiteral]
  · exact absurd h (by simp)

theorem toLiteral_isSome_of_ofLiteral (n : Number F) (x : F)
    (h : ofLiteral n = some x) :
    (toLiteral x).isSome := by
  rw [toLiteral_isSome_iff]
  cases n with
  | posInt n =>
      simp only [ofLiteral, Option.ite_none_right_eq_some,
        Option.some.injEq] at h
      exact h.2 ▸ h.1
  | negInt n =>
      simp only [ofLiteral, Option.ite_none_right_eq_some,
        Option.some.injEq] at h
      exact h.2 ▸ h.1
  | float y hy =>
      obtain rfl : y = x := Option.some.inj h
      exact hy

def f64Codec : Codec (Number F) P F :=
  .number toLiteral ofLiteral ofLiteral_of_toLiteral
    toLiteral_isSome_of_ofLiteral

def natCodec : Codec (Number F) P ℕ :=
  .number (fun n => some (.posInt n))
    (fun
      | .posInt n => some n
      | _ => none)
    (fun n l h => by
      obtain rfl : Number.posInt n = l := Option.some.inj h
      rfl)
    (fun _ _ _ => rfl)

def timestampCodec [Chrono] : Codec (Number F) P Timestamp :=
  .refine Codec.string Chrono.format Chrono.parse Chrono.parse_format
    (fun _ _ _ _ => trivial) (fun _ _ => rfl)

theorem f64Codec_plain : (f64Codec : Codec (Number F) P F).Plain :=
  fun _ _ => rfl

theorem natCodec_plain : (natCodec : Codec (Number F) P ℕ).Plain :=
  fun _ _ => rfl

theorem stringCodec_plain : (.string : Codec (Number F) P String).Plain :=
  fun _ _ => rfl

theorem stringCodec_decode_null :
    (.string : Codec (Number F) P String).decode .null = none :=
  rfl

theorem stringCodec_representable_nil :
    (Codec.string.list : Codec (Number F) P (List String)).Representable [] :=
  List.forall_mem_nil _

theorem f64Codec_decode_null :
    (f64Codec : Codec (Number F) P F).decode .null = none :=
  rfl

theorem f64Codec_representable_zero :
    (f64Codec : Codec (Number F) P F).Representable 0.0 :=
  (toLiteral_isSome_iff _).mpr F64.isFinite_zero

theorem natCodec_representable_zero :
    (natCodec : Codec (Number F) P ℕ).Representable 0 :=
  rfl

/-! ## Identifiers -/

theorem ModuleId.fromStr_asStr (id : ModuleId) :
    (ModuleId.fromStr id.asStr).toOption = some id := by
  rw [ModuleId.fromStr]
  split
  · rfl
  · next e h => exact absurd (id.valid.symm.trans h) (by simp)

theorem RunId.fromStr_asStr (id : RunId) :
    (RunId.fromStr id.asStr).toOption = some id := by
  rw [RunId.fromStr]
  split
  · rfl
  · next e h => exact absurd (id.valid.symm.trans h) (by simp)

def moduleIdCodec : Codec (Number F) P ModuleId :=
  .refine Codec.string ModuleId.asStr
    (fun s => (ModuleId.fromStr s).toOption) ModuleId.fromStr_asStr
    (fun _ _ _ _ => trivial) (fun _ _ => rfl)

def runIdCodec : Codec (Number F) P RunId :=
  .refine Codec.string RunId.asStr
    (fun s => (RunId.fromStr s).toOption) RunId.fromStr_asStr
    (fun _ _ _ _ => trivial) (fun _ _ => rfl)

def moduleRefCodec : Codec (Number F) P ModuleRef :=
  Fields.toCodec
    (.iso
      ⟨fun a => (a.id, a.version), fun a => ⟨a.1, a.2⟩,
        fun _ => rfl, fun _ => rfl⟩ <|
      .pair (.field "id" moduleIdCodec) <|
      .field "version" .string)
    (of_decide_eq_true rfl)

/-! ## Measurements -/

def Direction.naming : Naming Direction where
  name
    | higherIsBetter => "higher_is_better"
    | lowerIsBetter => "lower_is_better"
  members := [higherIsBetter, lowerIsBetter]
  mem a := by cases a <;> decide
  nodup := by decide

def ModuleStatus.naming : Naming ModuleStatus where
  name
    | completed => "completed"
    | degraded => "degraded"
    | failed => "failed"
    | cancelled => "cancelled"
    | skipped => "skipped"
  members := [completed, degraded, failed, cancelled, skipped]
  mem a := by cases a <;> decide
  nodup := by decide

def WarningCode.naming : Naming WarningCode where
  name
    | highVariance => "high_variance"
    | stealTimeObserved => "steal_time_observed"
    | frequencyDrop => "frequency_drop"
    | thermalThrottle => "thermal_throttle"
    | preexistingLoad => "preexisting_load"
    | externalLoad => "external_load"
    | memoryPressure => "memory_pressure"
    | containerScoped => "container_scoped"
    | validationFailed => "validation_failed"
    | generatorSaturated => "generator_saturated"
    | informational => "informational"
  members :=
    [highVariance, stealTimeObserved, frequencyDrop, thermalThrottle,
      preexistingLoad, externalLoad, memoryPressure, containerScoped,
      validationFailed, generatorSaturated, informational]
  mem a := by cases a <;> decide
  nodup := by decide

def summaryCodec : Codec (Number F) P (Summary F) :=
  Fields.toCodec
    (.iso
      ⟨fun a => (a.n, a.min, a.max, a.mean, a.median, a.stddev, a.cv, a.ci95,
          a.mad),
        fun (n, min, max, mean, median, stddev, cv, ci95, mad) =>
          ⟨n, min, max, mean, median, stddev, cv, ci95, mad⟩,
        fun _ => rfl, fun _ => rfl⟩ <|
      .pair (.field "n" natCodec) <|
      .pair (.field "min" f64Codec) <|
      .pair (.field "max" f64Codec) <|
      .pair (.field "mean" f64Codec) <|
      .pair (.field "median" f64Codec) <|
      .pair (.field "stddev" f64Codec) <|
      .pair (.optional "cv" f64Codec f64Codec_decode_null) <|
      .pair (.optional "ci95" (f64Codec.tuple f64Codec) rfl) <|
      .skipNone "mad" f64Codec f64Codec_decode_null f64Codec_plain)
    (of_decide_eq_true rfl)

def metricSampleCodec : Codec (Number F) P (MetricSample F) :=
  Fields.toCodec
    (.iso
      ⟨fun a => (a.rep, a.value, a.durationMs, a.warmup),
        fun (rep, value, durationMs, warmup) =>
          ⟨rep, value, durationMs, warmup⟩,
        fun _ => rfl, fun _ => rfl⟩ <|
      .pair (.field "rep" natCodec) <|
      .pair (.field "value" f64Codec) <|
      .pair (.field "duration_ms" f64Codec) <|
      .defaulted "warmup" .bool false trivial)
    (of_decide_eq_true rfl)

def metricCodec : Codec (Number F) P (Metric F) :=
  Fields.toCodec
    (.iso
      ⟨fun a => (a.key, a.label, a.unit, a.direction, a.value, a.summary,
          a.samples, a.outliers, a.measuresDispersion, a.tailQuantile),
        fun (key, label, unit, direction, value, summary, samples, outliers,
            measuresDispersion, tailQuantile) =>
          ⟨key, label, unit, direction, value, summary, samples, outliers,
            measuresDispersion, tailQuantile⟩,
        fun _ => rfl, fun _ => rfl⟩ <|
      .pair (.field "key" .string) <|
      .pair (.field "label" .string) <|
      .pair (.field "unit" .string) <|
      .pair (.field "direction" (.names Direction.naming)) <|
      .pair (.field "value" f64Codec) <|
      .pair (.field "summary" summaryCodec) <|
      .pair (.field "samples" metricSampleCodec.list) <|
      .pair (.defaulted "outliers" natCodec.list [] (by simp [Codec.list])) <|
      .pair (.defaulted "measures_dispersion" .bool false trivial) <|
      .skipWhen "tail_quantile" .bool false not trivial (by simp)
        (fun _ _ => rfl))
    (of_decide_eq_true rfl)

def warningFields : Fields (Number F) P Warning :=
  .iso
    ⟨fun a => (a.code, a.message, a.metricKey),
      fun (code, message, metricKey) => ⟨code, message, metricKey⟩,
      fun _ => rfl, fun _ => rfl⟩ <|
    .pair (.field "code" (.names WarningCode.naming)) <|
    .pair (.field "message" .string) <|
    .skipNone "metric_key" .string stringCodec_decode_null
      stringCodec_plain

def warningCodec : Codec (Number F) P Warning :=
  warningFields.toCodec (of_decide_eq_true rfl)

def moduleResultCodec [Chrono] : Codec (Number F) P (ModuleResult F) :=
  Fields.toCodec
    (.iso
      ⟨fun a => (a.module, a.status, a.cycle, a.startedAt, a.finishedAt,
          a.durationMs, a.metrics, a.warnings, a.error, a.context),
        fun (module, status, cycle, startedAt, finishedAt, durationMs,
            metrics, warnings, error, context) =>
          ⟨module, status, cycle, startedAt, finishedAt, durationMs, metrics,
            warnings, error, context⟩,
        fun _ => rfl, fun _ => rfl⟩ <|
      .pair (.field "module" moduleRefCodec) <|
      .pair (.field "status" (.names ModuleStatus.naming)) <|
      .pair (.defaulted "cycle" natCodec 0 natCodec_representable_zero) <|
      .pair (.field "started_at" timestampCodec) <|
      .pair (.field "finished_at" timestampCodec) <|
      .pair (.field "duration_ms" f64Codec) <|
      .pair (.field "metrics" metricCodec.list) <|
      .pair (.defaulted "warnings" warningCodec.list []
        (by simp [Codec.list])) <|
      .pair (.skipNone "error" .string stringCodec_decode_null
        stringCodec_plain) <|
      .defaulted "context" (Codec.map .json) ∅ (by simp [Codec.map]))
    (of_decide_eq_true rfl)

/-! ## Runs and verdicts -/

def RunState.naming : Naming RunState where
  name
    | created => "created"
    | preflight => "preflight"
    | running => "running"
    | finalizing => "finalizing"
    | completed => "completed"
    | failed => "failed"
    | cancelled => "cancelled"
  members :=
    [created, preflight, running, finalizing, completed, failed, cancelled]
  mem a := by cases a <;> decide
  nodup := by decide

def Profile.naming : Naming Profile where
  name
    | quick => "quick"
    | standard => "standard"
    | deep => "deep"
    | endurance => "endurance"
    | readOnly => "read_only"
    | webOnly => "web_only"
    | custom => "custom"
  members := [quick, standard, deep, endurance, readOnly, webOnly, custom]
  mem a := by cases a <;> decide
  nodup := by decide

def ResultState.naming : Naming ResultState where
  name
    | localState => "local"
    | selfReported => "self_reported"
    | validated => "validated"
    | verified => "verified"
    | official => "official"
    | invalid => "invalid"
    | partialState => "partial"
    | custom => "custom"
  members :=
    [localState, selfReported, validated, verified, official, invalid,
      partialState, custom]
  mem a := by cases a <;> decide
  nodup := by decide

/-- The variants of a verdict reason. -/
inductive VerdictReason.Kind where
  | requiredModuleMissing
  | moduleFailed
  | excessiveVariance
  | moduleDegraded
  | loadGeneratorSaturated
  | environmentChangedMidRun
  | clockAnomaly
  | errorRateExceeded
  | insufficientDiskSpace
  | interrupted
  | missingMetadata
  | customProfile
  | incompatibleBenchmarkVersion
  | signatureInvalid
  | scoreRecomputationMismatch
  | replayDetected
  deriving DecidableEq

namespace VerdictReason.Kind

def naming : Naming VerdictReason.Kind where
  name
    | requiredModuleMissing => "required_module_missing"
    | moduleFailed => "module_failed"
    | excessiveVariance => "excessive_variance"
    | moduleDegraded => "module_degraded"
    | loadGeneratorSaturated => "load_generator_saturated"
    | environmentChangedMidRun => "environment_changed_mid_run"
    | clockAnomaly => "clock_anomaly"
    | errorRateExceeded => "error_rate_exceeded"
    | insufficientDiskSpace => "insufficient_disk_space"
    | interrupted => "interrupted"
    | missingMetadata => "missing_metadata"
    | customProfile => "custom_profile"
    | incompatibleBenchmarkVersion => "incompatible_benchmark_version"
    | signatureInvalid => "signature_invalid"
    | scoreRecomputationMismatch => "score_recomputation_mismatch"
    | replayDetected => "replay_detected"
  members :=
    [requiredModuleMissing, moduleFailed, excessiveVariance, moduleDegraded,
      loadGeneratorSaturated, environmentChangedMidRun, clockAnomaly,
      errorRateExceeded, insufficientDiskSpace, interrupted, missingMetadata,
      customProfile, incompatibleBenchmarkVersion, signatureInvalid,
      scoreRecomputationMismatch, replayDetected]
  mem a := by cases a <;> decide
  nodup := by decide

/-- The data a variant carries. -/
def Payload : VerdictReason.Kind → Type
  | requiredModuleMissing | moduleFailed | excessiveVariance
  | loadGeneratorSaturated => ModuleId
  | moduleDegraded => ModuleId × String
  | missingMetadata => String
  | incompatibleBenchmarkVersion => String × String
  | environmentChangedMidRun | clockAnomaly | errorRateExceeded
  | insufficientDiskSpace | interrupted | customProfile | signatureInvalid
  | scoreRecomputationMismatch | replayDetected => Unit

/-- Whether a variant carries no data. -/
def bare : VerdictReason.Kind → Bool
  | requiredModuleMissing | moduleFailed | excessiveVariance
  | loadGeneratorSaturated | moduleDegraded | missingMetadata
  | incompatibleBenchmarkVersion => false
  | environmentChangedMidRun | clockAnomaly | errorRateExceeded
  | insufficientDiskSpace | interrupted | customProfile | signatureInvalid
  | scoreRecomputationMismatch | replayDetected => true

/-- The only member of a variant that names a module. -/
def moduleCodec : Codec (Number F) P ModuleId :=
  (Fields.field "module" moduleIdCodec).toCodec (of_decide_eq_true rfl)

def codec : (kind : VerdictReason.Kind) → Codec (Number F) P kind.Payload
  | requiredModuleMissing | moduleFailed | excessiveVariance
  | loadGeneratorSaturated => moduleCodec
  | moduleDegraded =>
      (Fields.pair (.field "module" moduleIdCodec)
        (.field "reason" .string)).toCodec (of_decide_eq_true rfl)
  | missingMetadata =>
      (Fields.field "field" .string).toCodec (of_decide_eq_true rfl)
  | incompatibleBenchmarkVersion =>
      (Fields.pair (.field "found" .string)
        (.field "expected" .string)).toCodec (of_decide_eq_true rfl)
  | environmentChangedMidRun | clockAnomaly | errorRateExceeded
  | insufficientDiskSpace | interrupted | customProfile | signatureInvalid
  | scoreRecomputationMismatch | replayDetected => Codec.unit

end VerdictReason.Kind

/-- A verdict reason as its variant and the data of the variant. -/
def VerdictReason.equivSigma :
    VerdictReason ≃ (kind : VerdictReason.Kind) × kind.Payload where
  toFun
    | requiredModuleMissing module => ⟨.requiredModuleMissing, module⟩
    | moduleFailed module => ⟨.moduleFailed, module⟩
    | excessiveVariance module => ⟨.excessiveVariance, module⟩
    | moduleDegraded module reason => ⟨.moduleDegraded, (module, reason)⟩
    | loadGeneratorSaturated module => ⟨.loadGeneratorSaturated, module⟩
    | environmentChangedMidRun => ⟨.environmentChangedMidRun, ()⟩
    | clockAnomaly => ⟨.clockAnomaly, ()⟩
    | errorRateExceeded => ⟨.errorRateExceeded, ()⟩
    | insufficientDiskSpace => ⟨.insufficientDiskSpace, ()⟩
    | interrupted => ⟨.interrupted, ()⟩
    | missingMetadata field => ⟨.missingMetadata, field⟩
    | customProfile => ⟨.customProfile, ()⟩
    | incompatibleBenchmarkVersion found expected =>
        ⟨.incompatibleBenchmarkVersion, (found, expected)⟩
    | signatureInvalid => ⟨.signatureInvalid, ()⟩
    | scoreRecomputationMismatch => ⟨.scoreRecomputationMismatch, ()⟩
    | replayDetected => ⟨.replayDetected, ()⟩
  invFun
    | ⟨.requiredModuleMissing, module⟩ => requiredModuleMissing module
    | ⟨.moduleFailed, module⟩ => moduleFailed module
    | ⟨.excessiveVariance, module⟩ => excessiveVariance module
    | ⟨.moduleDegraded, module, reason⟩ => moduleDegraded module reason
    | ⟨.loadGeneratorSaturated, module⟩ => loadGeneratorSaturated module
    | ⟨.environmentChangedMidRun, ()⟩ => environmentChangedMidRun
    | ⟨.clockAnomaly, ()⟩ => clockAnomaly
    | ⟨.errorRateExceeded, ()⟩ => errorRateExceeded
    | ⟨.insufficientDiskSpace, ()⟩ => insufficientDiskSpace
    | ⟨.interrupted, ()⟩ => interrupted
    | ⟨.missingMetadata, field⟩ => missingMetadata field
    | ⟨.customProfile, ()⟩ => customProfile
    | ⟨.incompatibleBenchmarkVersion, found, expected⟩ =>
        incompatibleBenchmarkVersion found expected
    | ⟨.signatureInvalid, ()⟩ => signatureInvalid
    | ⟨.scoreRecomputationMismatch, ()⟩ => scoreRecomputationMismatch
    | ⟨.replayDetected, ()⟩ => replayDetected
  left_inv a := by cases a <;> rfl
  right_inv
    | ⟨kind, _⟩ => by cases kind <;> rfl

def verdictReasonCodec : Codec (Number F) P VerdictReason :=
  .iso VerdictReason.equivSigma <|
    .variants VerdictReason.Kind.naming VerdictReason.Kind.bare
      VerdictReason.Kind.codec
      (by
        intro kind hbare p b
        cases kind <;> first | rfl | exact absurd hbare (by decide))

def verdictCodec : Codec (Number F) P Verdict :=
  Fields.toCodec
    (.iso
      ⟨fun a => (a.state, a.reasons, a.validatorVersion),
        fun (state, reasons, validatorVersion) =>
          ⟨state, reasons, validatorVersion⟩,
        fun _ => rfl, fun _ => rfl⟩ <|
      .pair (.field "state" (.names ResultState.naming)) <|
      .pair (.field "reasons" verdictReasonCodec.list) <|
      .field "validator_version" .string)
    (of_decide_eq_true rfl)

end Darcbench
