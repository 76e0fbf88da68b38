import Darcbench.Inventory.Codec
import Darcbench.Report.Bundle
import Darcbench.Scoring.Codec

/-!
# Serialised form of the bundle
-/

namespace Darcbench

variable {F : Type} [F64 F] {P : Type}

def bundleMetaCodec [Chrono] : Codec (Number F) P BundleMeta :=
  Fields.toCodec
    (.iso
      ⟨fun a => (a.schema, a.protocol, a.agentVersion, a.buildTarget,
          a.buildProfile, a.generatedAt, a.agentBuildHash),
        fun (schema, protocol, agentVersion, buildTarget, buildProfile,
            generatedAt, agentBuildHash) =>
          ⟨schema, protocol, agentVersion, buildTarget, buildProfile,
            generatedAt, agentBuildHash⟩,
        fun _ => rfl, fun _ => rfl⟩ <|
      .pair (.field "schema" .string) <|
      .pair (.field "protocol" .string) <|
      .pair (.field "agent_version" .string) <|
      .pair (.field "build_target" .string) <|
      .pair (.field "build_profile" .string) <|
      .pair (.field "generated_at" timestampCodec) <|
      .skipNone "agent_build_hash" .string stringCodec_decode_null
        stringCodec_plain)
    (of_decide_eq_true rfl)

theorem stringsCodec_plain :
    (stringsCodec : Codec (Number F) P (List String)).Plain :=
  Codec.plain_list fun _ _ => rfl

def runRecordCodec [Chrono] : Codec (Number F) P RunRecord :=
  Fields.toCodec
    (.iso
      ⟨fun a => (a.runId, a.profile, a.state, a.startedAt, a.finishedAt,
          a.durationMs, a.modules, a.environmentDigest, a.eventsDigest,
          a.eventCount, a.stoppedBecause, a.guardsNotEnforced,
          a.comparabilityNotRecorded),
        fun (runId, profile, state, startedAt, finishedAt, durationMs, modules,
            environmentDigest, eventsDigest, eventCount, stoppedBecause,
            guardsNotEnforced, comparabilityNotRecorded) =>
          ⟨runId, profile, state, startedAt, finishedAt, durationMs, modules,
            environmentDigest, eventsDigest, eventCount, stoppedBecause,
            guardsNotEnforced, comparabilityNotRecorded⟩,
        fun _ => rfl, fun _ => rfl⟩ <|
      .pair (.field "run_id" runIdCodec) <|
      .pair (.field "profile" (.names Profile.naming)) <|
      .pair (.field "state" (.names RunState.naming)) <|
      .pair (.field "started_at" timestampCodec) <|
      .pair (.field "finished_at" timestampCodec) <|
      .pair (.field "duration_ms" natCodec) <|
      .pair (.field "modules" moduleRefCodec.list) <|
      .pair (.field "environment_digest" .string) <|
      .pair (.field "events_digest" .string) <|
      .pair (.field "event_count" natCodec) <|
      .pair (.skipNone "stopped_because" .string stringCodec_decode_null
        stringCodec_plain) <|
      .pair (.skipWhen "guards_not_enforced" stringsCodec [] List.isEmpty
        (by simp [stringsCodec, Codec.list]) (fun _ h => by simpa using h)
        stringsCodec_plain) <|
      .skipWhen "comparability_not_recorded" stringsCodec [] List.isEmpty
        (by simp [stringsCodec, Codec.list]) (fun _ h => by simpa using h)
        stringsCodec_plain)
    (of_decide_eq_true rfl)

def telemetrySummaryCodec : Codec (Number F) P (TelemetrySummary F) :=
  Fields.toCodec
    (.iso
      ⟨fun a => (a.samples, a.cpuBusyPctMean, a.cpuExternalBusyPctMax,
          a.cpuStealPctMax, a.cpuStealPctMean, a.cpuIowaitPctMean, a.load1Max,
          a.memUsedBytesMax, a.swapUsedBytesMax, a.cpuFreqMhzFirst,
          a.cpuFreqMhzLast, a.cpuTempCMax, a.psiCpuSomeAvg10Max),
        fun (samples, cpuBusyPctMean, cpuExternalBusyPctMax, cpuStealPctMax,
            cpuStealPctMean, cpuIowaitPctMean, load1Max, memUsedBytesMax,
            swapUsedBytesMax, cpuFreqMhzFirst, cpuFreqMhzLast, cpuTempCMax,
            psiCpuSomeAvg10Max) =>
          ⟨samples, cpuBusyPctMean, cpuExternalBusyPctMax, cpuStealPctMax,
            cpuStealPctMean, cpuIowaitPctMean, load1Max, memUsedBytesMax,
            swapUsedBytesMax, cpuFreqMhzFirst, cpuFreqMhzLast, cpuTempCMax,
            psiCpuSomeAvg10Max⟩,
        fun _ => rfl, fun _ => rfl⟩ <|
      .pair (.field "samples" natCodec) <|
      .pair (.field "cpu_busy_pct_mean" f64Codec) <|
      .pair (.defaulted "cpu_external_busy_pct_max" f64Codec 0.0
        f64Codec_representable_zero) <|
      .pair (.field "cpu_steal_pct_max" f64Codec) <|
      .pair (.field "cpu_steal_pct_mean" f64Codec) <|
      .pair (.field "cpu_iowait_pct_mean" f64Codec) <|
      .pair (.field "load1_max" f64Codec) <|
      .pair (.field "mem_used_bytes_max" natCodec) <|
      .pair (.field "swap_used_bytes_max" natCodec) <|
      .pair (.optional "cpu_freq_mhz_first" f64Codec f64Codec_decode_null) <|
      .pair (.optional "cpu_freq_mhz_last" f64Codec f64Codec_decode_null) <|
      .pair (.optional "cpu_temp_c_max" f64Codec f64Codec_decode_null) <|
      .optional "psi_cpu_some_avg10_max" f64Codec f64Codec_decode_null)
    (of_decide_eq_true rfl)

def SustainedCause.naming : Naming SustainedCause where
  name
    | sustained => "sustained"
    | thermalThrottling => "thermal_throttling"
    | burstCreditExhaustion => "burst_credit_exhaustion"
    | noisyNeighbour => "noisy_neighbour"
    | undiagnosed => "undiagnosed"
  members :=
    [sustained, thermalThrottling, burstCreditExhaustion, noisyNeighbour,
      undiagnosed]
  mem a := by cases a <;> decide
  nodup := by decide

def sustainedEvidenceCodec : Codec (Number F) P (SustainedEvidence F) :=
  Fields.toCodec
    (.iso
      ⟨fun a => (a.stealPctOpening, a.stealPctClosing, a.stealPctStddev,
          a.frequencyDrop, a.temperatureRiseC, a.samples),
        fun (stealPctOpening, stealPctClosing, stealPctStddev, frequencyDrop,
            temperatureRiseC, samples) =>
          ⟨stealPctOpening, stealPctClosing, stealPctStddev, frequencyDrop,
            temperatureRiseC, samples⟩,
        fun _ => rfl, fun _ => rfl⟩ <|
      .pair (.field "steal_pct_opening" f64Codec) <|
      .pair (.field "steal_pct_closing" f64Codec) <|
      .pair (.field "steal_pct_stddev" f64Codec) <|
      .pair (.skipNone "frequency_drop" f64Codec f64Codec_decode_null
        f64Codec_plain) <|
      .pair (.skipNone "temperature_rise_c" f64Codec f64Codec_decode_null
        f64Codec_plain) <|
      .field "samples" natCodec)
    (of_decide_eq_true rfl)

def sustainedDiagnosisCodec : Codec (Number F) P (SustainedDiagnosis F) :=
  Fields.toCodec
    (.iso
      ⟨fun a => (a.cause, a.explanation, a.evidence),
        fun (cause, explanation, evidence) =>
          ⟨cause, explanation, evidence⟩,
        fun _ => rfl, fun _ => rfl⟩ <|
      .pair (.field "cause" (.names SustainedCause.naming)) <|
      .pair (.field "explanation" .string) <|
      .field "evidence" sustainedEvidenceCodec)
    (of_decide_eq_true rfl)

theorem sustainedDiagnosisCodec_decode_null :
    (sustainedDiagnosisCodec :
      Codec (Number F) P (SustainedDiagnosis F)).decode .null = none :=
  rfl

theorem sustainedDiagnosisCodec_plain :
    (sustainedDiagnosisCodec :
      Codec (Number F) P (SustainedDiagnosis F)).Plain :=
  fun _ _ => rfl

def signatureCodec : Codec (Number F) P Signature :=
  Fields.toCodec
    (.iso
      ⟨fun a => (a.algorithm, a.canonicalization, a.publicKey, a.value,
          a.keyId),
        fun (algorithm, canonicalization, publicKey, value, keyId) =>
          ⟨algorithm, canonicalization, publicKey, value, keyId⟩,
        fun _ => rfl, fun _ => rfl⟩ <|
      .pair (.field "algorithm" .string) <|
      .pair (.field "canonicalization" .string) <|
      .pair (.field "public_key" .string) <|
      .pair (.field "value" .string) <|
      .field "key_id" .string)
    (of_decide_eq_true rfl)

theorem signatureCodec_plain :
    (signatureCodec : Codec (Number F) P Signature).Plain :=
  fun _ _ => rfl

def bundleCodec [Chrono] : Codec (Number F) RedactionPolicy (Bundle F) :=
  Fields.toCodec
    (.iso
      ⟨fun a => (a.metadata, a.run, a.environment, a.modules, a.scores,
          a.verdict, a.telemetry, a.sustainedDiagnosis, a.signature),
        fun (metadata, run, environment, modules, scores, verdict, telemetry,
            sustainedDiagnosis, signature) =>
          ⟨metadata, run, environment, modules, scores, verdict, telemetry,
            sustainedDiagnosis, signature⟩,
        fun _ => rfl, fun _ => rfl⟩ <|
      .pair (.field "meta" bundleMetaCodec) <|
      .pair (.field "run" runRecordCodec) <|
      .pair (.field "environment" inventoryCodec) <|
      .pair (.field "modules" moduleResultCodec.list) <|
      .pair (.field "scores" scoreCardCodec) <|
      .pair (.field "verdict" verdictCodec) <|
      .pair (.field "telemetry" telemetrySummaryCodec) <|
      .pair (.skipNone "sustained_diagnosis" sustainedDiagnosisCodec rfl
        sustainedDiagnosisCodec_plain) <|
      .skipNone "signature" signatureCodec rfl signatureCodec_plain)
    (of_decide_eq_true rfl)

end Darcbench
