import Darcbench.Inventory.Telemetry
import Darcbench.Protocol.Display
import Darcbench.Report.Bundle

/-!
# What the telemetry of a run says

The summary of a telemetry series, and the explanation of why a long run slowed
down.  A falling clock is throttling, steal time that rose is a credit balance
that ran out, and steal time that is high or erratic throughout is contention
on the host.
-/

namespace Darcbench

variable {F : Type} [F64 F]

/-! ## The summary -/

namespace TelemetrySummary

def empty : TelemetrySummary F where
  samples := 0
  cpuBusyPctMean := 0.0
  cpuExternalBusyPctMax := 0.0
  cpuStealPctMax := 0.0
  cpuStealPctMean := 0.0
  cpuIowaitPctMean := 0.0
  load1Max := 0.0
  memUsedBytesMax := 0
  swapUsedBytesMax := 0
  cpuFreqMhzFirst := none
  cpuFreqMhzLast := none
  cpuTempCMax := none
  psiCpuSomeAvg10Max := none

/-- Zero, and not a special value, if no tick was readable. -/
def cpuMean (cpu : List (Inventory.TelemetrySnapshot F))
    (f : Inventory.TelemetrySnapshot F → F) : F :=
  if cpu.isEmpty then 0.0
  else F64.sum (cpu.map f) / F64.ofNat cpu.length

def cpuMax (cpu : List (Inventory.TelemetrySnapshot F))
    (f : Inventory.TelemetrySnapshot F → F) : F :=
  (cpu.map f).foldl F64.max 0.0

def largest (samples : List (Inventory.TelemetrySnapshot F))
    (f : Inventory.TelemetrySnapshot F → F) : F :=
  (samples.map f).foldl F64.max F64.negInfinity

/-- The largest of the values that were observed. -/
def largestObserved (samples : List (Inventory.TelemetrySnapshot F))
    (f : Inventory.TelemetrySnapshot F → Option F) : Option F :=
  (samples.filterMap f).foldl
    (fun acc v => some (acc.elim v fun a => F64.max a v)) none

/-- The CPU percentages are aggregated over the ticks that were measured. -/
def fromSamples (samples : List (Inventory.TelemetrySnapshot F)) :
    TelemetrySummary F :=
  if samples.isEmpty then
    empty
  else
    let cpu := samples.filter (!·.cpuUnavailable)
    { samples := samples.length
      cpuBusyPctMean := cpuMean cpu (·.cpuBusyPct)
      cpuExternalBusyPctMax := cpuMax cpu (·.cpuExternalBusyPct)
      cpuStealPctMax := cpuMax cpu (·.cpuStealPct)
      cpuStealPctMean := cpuMean cpu (·.cpuStealPct)
      cpuIowaitPctMean := cpuMean cpu (·.cpuIowaitPct)
      load1Max := largest samples (·.load1)
      memUsedBytesMax := (samples.map (·.memUsedBytes)).foldl Nat.max 0
      swapUsedBytesMax := (samples.map (·.swapUsedBytes)).foldl Nat.max 0
      cpuFreqMhzFirst := samples.head?.bind (·.cpuFreqMhz)
      cpuFreqMhzLast := samples.getLast?.bind (·.cpuFreqMhz)
      cpuTempCMax := largestObserved samples (·.cpuTempC)
      psiCpuSomeAvg10Max := largestObserved samples (·.psiCpuSomeAvg10) }

end TelemetrySummary

/-! ## The evidence -/

namespace Diagnosis

def stealRisePp : F := 5.0

def stealHighPct : F := 5.0

def frequencyDropLimit : F := 0.05

def stealVolatilityPp : F := 3.0

def tempRiseC : F := 5.0

/-- The finite values that a projection yields. -/
def valuesOf (samples : List (Inventory.TelemetrySnapshot F))
    (project : Inventory.TelemetrySnapshot F → Option F) : List F :=
  (samples.filterMap project).filter F64.isFinite

def meanOf (values : List F) : F :=
  F64.sum values / F64.ofNat values.length

def mean (samples : List (Inventory.TelemetrySnapshot F))
    (project : Inventory.TelemetrySnapshot F → Option F) : Option F :=
  let values := valuesOf samples project
  if values.isEmpty then none else some (meanOf values)

/-- The samples of the opening third. -/
def opening (samples : List (Inventory.TelemetrySnapshot F)) :
    List (Inventory.TelemetrySnapshot F) :=
  let window := max (samples.length / 3) 1
  samples.take (min window samples.length)

/-- The samples of the closing third. -/
def closing (samples : List (Inventory.TelemetrySnapshot F)) :
    List (Inventory.TelemetrySnapshot F) :=
  let window := max (samples.length / 3) 1
  samples.drop (samples.length - window)

variable [F64.Sqrt F]

def varianceOf (values : List F) : F :=
  let mean := meanOf values
  F64.sum (values.map fun v => (v - mean) * (v - mean)) /
    (F64.ofNat values.length - 1.0)

def stddev (samples : List (Inventory.TelemetrySnapshot F))
    (project : Inventory.TelemetrySnapshot F → Option F) : Option F :=
  let values := valuesOf samples project
  if values.length < 2 then none
  else some (F64.Sqrt.sqrt (varianceOf values))

/-- Reads the telemetry series into what the classifier works from. -/
def gather (samples : List (Inventory.TelemetrySnapshot F)) :
    SustainedEvidence F where
  stealPctOpening :=
    (mean (opening samples) fun s => some s.cpuStealPct).getD 0.0
  stealPctClosing :=
    (mean (closing samples) fun s => some s.cpuStealPct).getD 0.0
  stealPctStddev := (stddev samples fun s => some s.cpuStealPct).getD 0.0
  frequencyDrop :=
    match mean (opening samples) (·.cpuFreqMhz),
        mean (closing samples) (·.cpuFreqMhz) with
    | some first, some last =>
        if 0.0 < first then some (1.0 - last / first) else none
    | _, _ => none
  temperatureRiseC :=
    match mean (opening samples) (·.cpuTempC),
        mean (closing samples) (·.cpuTempC) with
    | some first, some last => some (last - first)
    | _, _ => none
  samples := samples.length

/-! ## The explanation -/

variable [F64.Display F]

def shown (decimals : ℕ) (value : F) : String :=
  F64.Display.fixed decimals value

def sustainedText (retention : F) : String :=
  s!"Throughput held across the run: {shown 0 (retention * 100.0)}% of the " ++
    "opening figure was still there at the end. Whatever this machine did " ++
    "in the first minutes, it kept doing."

def heatText (evidence : SustainedEvidence F) : String :=
  match evidence.temperatureRiseC with
  | some rise =>
      if tempRiseC ≤ rise then
        s!" Package temperature rose {shown 0 rise} C over the same window."
      else
        ""
  | none => ""

def throttlingText (lostPct : F) (evidence : SustainedEvidence F) : String :=
  let drop := evidence.frequencyDrop.getD 0.0 * 100.0
  s!"Throughput fell {shown 0 lostPct}% and the CPU clock fell " ++
    s!"{shown 0 drop}% with it, so the processor itself slowed down." ++
    heatText evidence ++
    " On hardware you own this is a cooling or power-delivery limit rather " ++
    "than a limit of the silicon, and it is usually fixable."

def creditText (lostPct : F) (evidence : SustainedEvidence F) : String :=
  s!"Throughput fell {shown 0 lostPct}% while the CPU clock held steady and " ++
    s!"steal time rose from {shown 1 evidence.stealPctOpening}% to " ++
    s!"{shown 1 evidence.stealPctClosing}%. That is the signature of a " ++
    "burstable instance spending its credit balance: the processor is as " ++
    "fast as it ever was, and this guest is simply being given less of it. " ++
    "Expect the later figures, not the opening ones, and treat a short " ++
    "benchmark of this machine as a measurement of its credits."

def neighbourText (lostPct : F) (evidence : SustainedEvidence F) : String :=
  s!"Throughput fell {shown 0 lostPct}% with steal time averaging " ++
    s!"{shown 1 evidence.stealPctClosing}% and swinging by " ++
    s!"{shown 1 evidence.stealPctStddev} points across the run. Erratic " ++
    "rather than rising steal is contention on the host: another tenant's " ++
    "workload arriving and leaving. No plan change on this machine fixes it."

def undiagnosedText (lostPct : F) : String :=
  s!"Throughput fell {shown 0 lostPct}% over the run, and the telemetry does " ++
    "not explain it: the clock held, steal time stayed low and steady. " ++
    "Storage is the usual remaining candidate - an SLC cache filling up or " ++
    "a burst IOPS allowance running out - so compare the per-metric " ++
    "retention to see whether the loss is confined to the disk. Stated as " ++
    "unexplained rather than attributed to a cause this run did not observe."

/-- The signals in the order of how decisive they are. -/
def explain (retention : F) (evidence : SustainedEvidence F) :
    SustainedCause × String :=
  let stealRise := evidence.stealPctClosing - evidence.stealPctOpening
  let clockFell :=
    evidence.frequencyDrop.any fun drop => decide (frequencyDropLimit ≤ drop)
  let lostPct := (1.0 - retention) * 100.0
  if clockFell then
    (.thermalThrottling, throttlingText lostPct evidence)
  else if stealRisePp ≤ stealRise then
    (.burstCreditExhaustion, creditText lostPct evidence)
  else if stealVolatilityPp ≤ evidence.stealPctStddev ∨
      stealHighPct ≤ evidence.stealPctClosing then
    (.noisyNeighbour, neighbourText lostPct evidence)
  else
    (.undiagnosed, undiagnosedText lostPct)

/-- Explains a run's retention with the telemetry taken alongside it. -/
def diagnose (retention : Option F) (declined : Bool)
    (samples : List (Inventory.TelemetrySnapshot F)) :
    Option (SustainedDiagnosis F) :=
  retention.map fun retention =>
    let evidence := gather samples
    if !declined then
      { cause := .sustained
        explanation := sustainedText retention
        evidence }
    else
      let (cause, explanation) := explain retention evidence
      { cause, explanation, evidence }

end Diagnosis

end Darcbench
