import Darcbench.Protocol.Codec
import Darcbench.Protocol.Events

/-!
# Serialised form of the event stream

An envelope and its event share one object: the members of the event stand
beside those of the envelope, with the kind of the event as their tag.
-/

namespace Darcbench

variable {F : Type} [F64 F] {P : Type}

def RiskClass.naming : Naming RiskClass where
  name
    | safe => "safe"
    | moderateLoad => "moderate_load"
    | heavyLoad => "heavy_load"
    | productionRisk => "production_risk"
    | unsupported => "unsupported"
  members := [safe, moderateLoad, heavyLoad, productionRisk, unsupported]
  mem a := by cases a <;> decide
  nodup := by decide

def Severity.naming : Naming Severity where
  name
    | info => "info"
    | warning => "warning"
    | error => "error"
  members := [info, warning, error]
  mem a := by cases a <;> decide
  nodup := by decide

/-! ## Bodies -/

def runCreatedFields : Fields (Number F) P RunCreated :=
  .iso
    ⟨fun a => (a.profile, a.modules, a.agentVersion, a.scoringModel,
        a.environmentDigest),
      fun (profile, modules, agentVersion, scoringModel, environmentDigest) =>
        ⟨profile, modules, agentVersion, scoringModel, environmentDigest⟩,
      fun _ => rfl, fun _ => rfl⟩ <|
    .pair (.field "profile" (.names Profile.naming)) <|
    .pair (.field "modules" moduleRefCodec.list) <|
    .pair (.field "agent_version" .string) <|
    .pair (.field "scoring_model" .string) <|
    .field "environment_digest" .string

def preflightStartedFields : Fields (Number F) P PreflightStarted :=
  .iso
    ⟨fun a => a.checks, fun checks => ⟨checks⟩, fun _ => rfl, fun _ => rfl⟩ <|
    .field "checks" Codec.string.list

def preflightFindingCodec : Codec (Number F) P PreflightFinding :=
  Fields.toCodec
    (.iso
      ⟨fun a => (a.check, a.severity, a.message, a.blocking),
        fun (check, severity, message, blocking) =>
          ⟨check, severity, message, blocking⟩,
        fun _ => rfl, fun _ => rfl⟩ <|
      .pair (.field "check" .string) <|
      .pair (.field "severity" (.names Severity.naming)) <|
      .pair (.field "message" .string) <|
      .field "blocking" .bool)
    (of_decide_eq_true rfl)

def preflightCompletedFields : Fields (Number F) P PreflightCompleted :=
  .iso
    ⟨fun a => (a.risk, a.passed, a.findings, a.estimatedDurationS,
        a.estimatedBytesWritten, a.estimatedNetworkBytes,
        a.estimatedPeakMemoryBytes, a.estimatedWriteVolumeBytes),
      fun (risk, passed, findings, estimatedDurationS, estimatedBytesWritten,
          estimatedNetworkBytes, estimatedPeakMemoryBytes,
          estimatedWriteVolumeBytes) =>
        ⟨risk, passed, findings, estimatedDurationS, estimatedBytesWritten,
          estimatedNetworkBytes, estimatedPeakMemoryBytes,
          estimatedWriteVolumeBytes⟩,
      fun _ => rfl, fun _ => rfl⟩ <|
    .pair (.field "risk" (.names RiskClass.naming)) <|
    .pair (.field "passed" .bool) <|
    .pair (.field "findings" preflightFindingCodec.list) <|
    .pair (.field "estimated_duration_s" natCodec) <|
    .pair (.field "estimated_bytes_written" natCodec) <|
    .pair (.field "estimated_network_bytes" natCodec) <|
    .pair (.defaulted "estimated_peak_memory_bytes" natCodec 0
      natCodec_representable_zero) <|
    .defaulted "estimated_write_volume_bytes" natCodec 0
      natCodec_representable_zero

def moduleLifecycleFields : Fields (Number F) P ModuleLifecycle :=
  .iso
    ⟨fun a => (a.module, a.index, a.total, a.phase),
      fun (module, index, total, phase) => ⟨module, index, total, phase⟩,
      fun _ => rfl, fun _ => rfl⟩ <|
    .pair (.field "module" moduleRefCodec) <|
    .pair (.field "index" natCodec) <|
    .pair (.field "total" natCodec) <|
    .skipNone "phase" .string stringCodec_decode_null
      stringCodec_plain

def moduleSampleFields : Fields (Number F) P (ModuleSampleEvent F) :=
  .iso
    ⟨fun a => (a.module, a.metricKey, a.rep, a.warmup, a.value, a.unit,
        a.durationMs, a.moduleProgress),
      fun (module, metricKey, rep, warmup, value, unit, durationMs,
          moduleProgress) =>
        ⟨module, metricKey, rep, warmup, value, unit, durationMs,
          moduleProgress⟩,
      fun _ => rfl, fun _ => rfl⟩ <|
    .pair (.field "module" moduleIdCodec) <|
    .pair (.field "metric_key" .string) <|
    .pair (.field "rep" natCodec) <|
    .pair (.field "warmup" .bool) <|
    .pair (.field "value" f64Codec) <|
    .pair (.field "unit" .string) <|
    .pair (.field "duration_ms" f64Codec) <|
    .field "module_progress" f64Codec

def telemetryFields : Fields (Number F) P (TelemetryEvent F) :=
  .iso
    ⟨fun a => (a.module, a.cpuBusyPct, a.cpuExternalBusyPct, a.cpuStealPct,
        a.cpuIowaitPct, a.load1, a.memUsedBytes, a.memTotalBytes,
        a.swapUsedBytes, a.cpuFreqMhz, a.cpuTempC, a.psiCpuSomeAvg10,
        a.psiIoSomeAvg10, a.psiMemSomeAvg10, a.diskReadBytesPerS,
        a.diskWriteBytesPerS, a.netRxBytesPerS, a.netTxBytesPerS),
      fun (module, cpuBusyPct, cpuExternalBusyPct, cpuStealPct, cpuIowaitPct,
          load1, memUsedBytes, memTotalBytes, swapUsedBytes, cpuFreqMhz,
          cpuTempC, psiCpuSomeAvg10, psiIoSomeAvg10, psiMemSomeAvg10,
          diskReadBytesPerS, diskWriteBytesPerS, netRxBytesPerS,
          netTxBytesPerS) =>
        ⟨module, cpuBusyPct, cpuExternalBusyPct, cpuStealPct, cpuIowaitPct,
          load1, memUsedBytes, memTotalBytes, swapUsedBytes, cpuFreqMhz,
          cpuTempC, psiCpuSomeAvg10, psiIoSomeAvg10, psiMemSomeAvg10,
          diskReadBytesPerS, diskWriteBytesPerS, netRxBytesPerS,
          netTxBytesPerS⟩,
      fun _ => rfl, fun _ => rfl⟩ <|
    .pair (.skipNone "module" moduleIdCodec rfl (fun _ _ => rfl)) <|
    .pair (.field "cpu_busy_pct" f64Codec) <|
    .pair (.defaulted "cpu_external_busy_pct" f64Codec 0.0
      f64Codec_representable_zero) <|
    .pair (.field "cpu_steal_pct" f64Codec) <|
    .pair (.field "cpu_iowait_pct" f64Codec) <|
    .pair (.field "load1" f64Codec) <|
    .pair (.field "mem_used_bytes" natCodec) <|
    .pair (.field "mem_total_bytes" natCodec) <|
    .pair (.field "swap_used_bytes" natCodec) <|
    .pair (.skipNone "cpu_freq_mhz" f64Codec f64Codec_decode_null
      f64Codec_plain) <|
    .pair (.skipNone "cpu_temp_c" f64Codec f64Codec_decode_null
      f64Codec_plain) <|
    .pair (.skipNone "psi_cpu_some_avg10" f64Codec f64Codec_decode_null
      f64Codec_plain) <|
    .pair (.skipNone "psi_io_some_avg10" f64Codec f64Codec_decode_null
      f64Codec_plain) <|
    .pair (.skipNone "psi_mem_some_avg10" f64Codec f64Codec_decode_null
      f64Codec_plain) <|
    .pair (.field "disk_read_bytes_per_s" natCodec) <|
    .pair (.field "disk_write_bytes_per_s" natCodec) <|
    .pair (.field "net_rx_bytes_per_s" natCodec) <|
    .field "net_tx_bytes_per_s" natCodec

def moduleWarningFields : Fields (Number F) P ModuleWarningEvent :=
  .iso
    ⟨fun a => (a.module, a.warning), fun (module, warning) =>
        ⟨module, warning⟩,
      fun _ => rfl, fun _ => rfl⟩ <|
    .pair (.field "module" moduleIdCodec) warningFields

def moduleCompletedFields [Chrono] :
    Fields (Number F) P (ModuleCompletedEvent F) :=
  .iso
    ⟨fun a => a.result, fun result => ⟨result⟩, fun _ => rfl, fun _ => rfl⟩ <|
    .field "result" moduleResultCodec

def moduleFailedFields : Fields (Number F) P ModuleFailedEvent :=
  .iso
    ⟨fun a => (a.module, a.error, a.fatal),
      fun (module, error, fatal) => ⟨module, error, fatal⟩,
      fun _ => rfl, fun _ => rfl⟩ <|
    .pair (.field "module" moduleRefCodec) <|
    .pair (.field "error" .string) <|
    .field "fatal" .bool

def categoryScoreCodec : Codec (Number F) P (CategoryScore F) :=
  Fields.toCodec
    (.iso
      ⟨fun a => (a.key, a.label, a.score, a.weight),
        fun (key, label, score, weight) => ⟨key, label, score, weight⟩,
        fun _ => rfl, fun _ => rfl⟩ <|
      .pair (.field "key" .string) <|
      .pair (.field "label" .string) <|
      .pair (.field "score" f64Codec) <|
      .field "weight" f64Codec)
    (of_decide_eq_true rfl)

def scoreFields : Fields (Number F) P (ScoreEvent F) :=
  .iso
    ⟨fun a => (a.scoringModel, a.provisional, a.total, a.categories,
        a.uncalibrated),
      fun (scoringModel, provisional, total, categories, uncalibrated) =>
        ⟨scoringModel, provisional, total, categories, uncalibrated⟩,
      fun _ => rfl, fun _ => rfl⟩ <|
    .pair (.field "scoring_model" .string) <|
    .pair (.field "provisional" .bool) <|
    .pair (.optional "total" f64Codec f64Codec_decode_null) <|
    .pair (.field "categories" categoryScoreCodec.list) <|
    .field "uncalibrated" .bool

def reportGeneratedFields : Fields (Number F) P ReportGenerated :=
  .iso
    ⟨fun a => (a.formats, a.bundleSha256, a.bytes),
      fun (formats, bundleSha256, bytes) => ⟨formats, bundleSha256, bytes⟩,
      fun _ => rfl, fun _ => rfl⟩ <|
    .pair (.field "formats" Codec.string.list) <|
    .pair (.field "bundle_sha256" .string) <|
    .field "bytes" natCodec

def runCompletedFields : Fields (Number F) P RunCompleted :=
  .iso
    ⟨fun a => (a.state, a.verdict, a.durationMs, a.modulesCompleted,
        a.modulesFailed, a.finalSeq),
      fun (state, verdict, durationMs, modulesCompleted, modulesFailed,
          finalSeq) =>
        ⟨state, verdict, durationMs, modulesCompleted, modulesFailed,
          finalSeq⟩,
      fun _ => rfl, fun _ => rfl⟩ <|
    .pair (.field "state" (.names RunState.naming)) <|
    .pair (.field "verdict" verdictCodec) <|
    .pair (.field "duration_ms" natCodec) <|
    .pair (.field "modules_completed" natCodec) <|
    .pair (.field "modules_failed" natCodec) <|
    .field "final_seq" natCodec

def runInvalidatedFields : Fields (Number F) P RunInvalidated :=
  .iso
    ⟨fun a => a.verdict, fun verdict => ⟨verdict⟩, fun _ => rfl,
      fun _ => rfl⟩ <|
    .field "verdict" verdictCodec

def heartbeatFields : Fields (Number F) P Heartbeat :=
  .iso
    ⟨fun a => (a.state, a.lastSeq), fun (state, lastSeq) => ⟨state, lastSeq⟩,
      fun _ => rfl, fun _ => rfl⟩ <|
    .pair (.field "state" (.names RunState.naming)) <|
    .field "last_seq" natCodec

/-! ## Events -/

namespace Event.Kind

def naming : Naming Event.Kind where
  name := Event.Kind.name
  members :=
    [runCreated, preflightStarted, preflightCompleted, moduleQueued,
      modulePreparing, moduleWarmup, moduleStarted, moduleSample,
      moduleTelemetry, moduleWarning, moduleCompleted, moduleFailed,
      moduleCancelled, scoreProvisional, scoreFinal, reportGenerated,
      runCompleted, runInvalidated, heartbeat]
  mem a := by cases a <;> decide
  nodup := by decide

variable [Chrono]

def fields : (kind : Event.Kind) → Fields (Number F) P (kind.Body F)
  | runCreated => runCreatedFields
  | preflightStarted => preflightStartedFields
  | preflightCompleted => preflightCompletedFields
  | moduleQueued | modulePreparing | moduleWarmup | moduleStarted
  | moduleCancelled => moduleLifecycleFields
  | moduleSample => moduleSampleFields
  | moduleTelemetry => telemetryFields
  | moduleWarning => moduleWarningFields
  | moduleCompleted => moduleCompletedFields
  | moduleFailed => moduleFailedFields
  | scoreProvisional | scoreFinal => scoreFields
  | reportGenerated => reportGeneratedFields
  | runCompleted => runCompletedFields
  | runInvalidated => runInvalidatedFields
  | heartbeat => heartbeatFields

/-- Every member that some event has. -/
def memberNames : List String :=
  ["profile", "modules", "agent_version", "scoring_model",
    "environment_digest", "checks", "risk", "passed", "findings",
    "estimated_duration_s", "estimated_bytes_written",
    "estimated_network_bytes", "estimated_peak_memory_bytes",
    "estimated_write_volume_bytes", "module", "index", "total", "phase",
    "metric_key", "rep", "warmup", "value", "unit", "duration_ms",
    "module_progress", "cpu_busy_pct", "cpu_external_busy_pct",
    "cpu_steal_pct", "cpu_iowait_pct", "load1", "mem_used_bytes",
    "mem_total_bytes", "swap_used_bytes", "cpu_freq_mhz", "cpu_temp_c",
    "psi_cpu_some_avg10", "psi_io_some_avg10", "psi_mem_some_avg10",
    "disk_read_bytes_per_s", "disk_write_bytes_per_s", "net_rx_bytes_per_s",
    "net_tx_bytes_per_s", "code", "message", "result", "error", "fatal",
    "provisional", "categories", "uncalibrated", "formats", "bundle_sha256",
    "bytes", "state", "verdict", "modules_completed", "modules_failed",
    "final_seq", "last_seq"]

end Event.Kind

variable [Chrono]

/-- The members of an event, with its kind as the tag. -/
def eventFields : Fields (Number F) P (Event F) :=
  .iso Event.equivSigma <|
    .tagged "type" Event.Kind.naming Event.Kind.fields Event.Kind.memberNames
      (by
        intro kind
        cases kind <;> exact of_decide_eq_true rfl)
      (by
        intro kind
        cases kind <;> exact of_decide_eq_true rfl)

def envelopeCodec : Codec (Number F) P (Envelope F) :=
  Fields.toCodec
    (.iso
      ⟨fun a => (a.protocol, a.runId, a.seq, a.ts, a.monoMs, a.event),
        fun (protocol, runId, seq, ts, monoMs, event) =>
          ⟨protocol, runId, seq, ts, monoMs, event⟩,
        fun _ => rfl, fun _ => rfl⟩ <|
      .pair (.field "protocol" .string) <|
      .pair (.field "run_id" runIdCodec) <|
      .pair (.field "seq" natCodec) <|
      .pair (.field "ts" timestampCodec) <|
      .pair (.field "mono_ms" natCodec) eventFields)
    (of_decide_eq_true rfl)

end Darcbench
