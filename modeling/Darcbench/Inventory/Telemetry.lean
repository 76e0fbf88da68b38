import Darcbench.Protocol.Float
import Darcbench.Support.Words

/-!
# Telemetry samples

The kernel counts jiffies since boot, for the machine in `/proc/stat` and for
the run's own process in `/proc/self/stat`.  The sampler reads both once a
second and reports the CPU percentages of the time since the reading before.
The rest of a sample comes from other files.
-/

namespace Darcbench.Inventory

/-- The CPU percentages of a sample, and whether anything was measured. -/
structure CpuReadings (F : Type) where
  cpuBusyPct : F
  /-- Busy time that the run's own process did not consume. -/
  cpuExternalBusyPct : F
  cpuStealPct : F
  cpuIowaitPct : F
  /-- The four percentages are placeholders. -/
  cpuUnavailable : Bool

/-- One telemetry observation. -/
structure TelemetrySnapshot (F : Type) extends CpuReadings F where
  load1 : F
  memUsedBytes : ℕ
  memTotalBytes : ℕ
  swapUsedBytes : ℕ
  cpuFreqMhz : Option F
  cpuTempC : Option F
  psiCpuSomeAvg10 : Option F
  psiIoSomeAvg10 : Option F
  psiMemSomeAvg10 : Option F
  diskReadBytesPerS : ℕ
  diskWriteBytesPerS : ℕ
  netRxBytesPerS : ℕ
  netTxBytesPerS : ℕ

/-! ## The two readings -/

/-- Jiffies of the whole machine. -/
structure CpuTotals where
  idle : ℕ
  iowait : ℕ
  steal : ℕ
  total : ℕ

/-- The two files of a tick, as far as they could be read. -/
structure CpuFiles where
  stat : Option (List Char)
  selfStat : Option (List Char)

/-- The first eight fields of the machine's line, in jiffies.  Guest time is
already counted in user and nice. -/
structure CpuFields where
  user : ℕ
  nice : ℕ
  system : ℕ
  idle : ℕ
  iowait : ℕ
  irq : ℕ
  softirq : ℕ
  steal : ℕ

def CpuFields.sum (fields : CpuFields) : ℕ :=
  fields.user + fields.nice + fields.system + fields.idle + fields.iowait +
    fields.irq + fields.softirq + fields.steal

def cpuFields (file : Option (List Char)) : Option CpuFields := do
  let buffer ← file
  let line ← (buffer.splitOn '\n').find? ("cpu ".toList.isPrefixOf ·)
  let fields ← (((Words.splitWhitespace line).drop 1).take 8).mapM
    Words.parseU64
  match fields with
  | [user, nice, system, idle, iowait, irq, softirq, steal] =>
      some ⟨user, nice, system, idle, iowait, irq, softirq, steal⟩
  | _ => none

/-- The total is a 64-bit counter. -/
def CpuTotals.ofFields (fields : CpuFields) : CpuTotals where
  idle := fields.idle
  iowait := fields.iowait
  steal := fields.steal
  total := fields.sum % 2 ^ 64

def readCpuTotals (file : Option (List Char)) : Option CpuTotals :=
  (cpuFields file).map CpuTotals.ofFields

/-- Jiffies of this process and its reaped children.  The name of the
executable may itself contain parentheses. -/
def readSelfCpuJiffies (file : Option (List Char)) : Option ℕ := do
  let buffer ← file
  let afterComm ← Words.afterLast ')' buffer
  let fields := Words.splitWhitespace afterComm
  let utime ← fields[11]?.bind Words.parseU64
  let stime ← fields[12]?.bind Words.parseU64
  let cutime := (fields[13]?.bind Words.parseU64).getD 0
  let cstime := (fields[14]?.bind Words.parseU64).getD 0
  some (min (utime + stime + cutime + cstime) u64Max)

/-! ## The sampler -/

/-- What the sampler remembers of the CPU. -/
structure TelemetrySampler where
  previousCpu : Option CpuTotals
  previousSelfCpu : Option ℕ

namespace TelemetrySampler

def new : TelemetrySampler where
  previousCpu := none
  previousSelfCpu := none

section

variable {F : Type} [F64 F]

def pct (v total : ℕ) : F :=
  F64.ofNat v / F64.ofNat total * 100.0

/-- The percentages of the time between two readings of the machine. -/
def cpuReadings (previous current : CpuTotals) (currentSelf previousSelf :
    Option ℕ) : CpuReadings F :=
  let total := current.total - previous.total
  let idle := current.idle - previous.idle
  let iowait := current.iowait - previous.iowait
  let steal := current.steal - previous.steal
  let busy := total - idle - iowait - steal
  { cpuBusyPct := F64.clamp (pct busy total) 0.0 100.0
    cpuIowaitPct := F64.clamp (pct iowait total) 0.0 100.0
    cpuStealPct := F64.clamp (pct steal total) 0.0 100.0
    cpuExternalBusyPct :=
      match currentSelf, previousSelf with
      | some currentSelf, some previousSelf =>
          let ours := currentSelf - previousSelf
          F64.clamp (pct (busy - ours) total) 0.0 100.0
      | _, _ => 0.0
    cpuUnavailable := false }

/-- The percentages of a sample that nothing was computed for. -/
def placeholders (unavailable : Bool) : CpuReadings F where
  cpuBusyPct := 0.0
  cpuExternalBusyPct := 0.0
  cpuStealPct := 0.0
  cpuIowaitPct := 0.0
  cpuUnavailable := unavailable

/-- The CPU part of an observation. -/
def sampleCpu (sampler : TelemetrySampler) (files : CpuFiles) :
    CpuReadings F :=
  match readCpuTotals files.stat with
  | none => placeholders true
  | some current =>
      match sampler.previousCpu with
      | none => placeholders false
      | some previous =>
          if 0 < current.total - previous.total then
            cpuReadings previous current (readSelfCpuJiffies files.selfStat)
              sampler.previousSelfCpu
          else
            placeholders false

end

/-- What an observation leaves for the next one. -/
def advance (sampler : TelemetrySampler) (files : CpuFiles) :
    TelemetrySampler :=
  match readCpuTotals files.stat with
  | none => sampler
  | some current =>
      { previousCpu := some current
        previousSelfCpu :=
          match readSelfCpuJiffies files.selfStat with
          | some currentSelf => some currentSelf
          | none => sampler.previousSelfCpu }

/-- The sampler after some ticks. -/
def run (ticks : List CpuFiles) : TelemetrySampler :=
  ticks.foldl advance new

theorem run_concat (ticks : List CpuFiles) (tick : CpuFiles) :
    run (ticks ++ [tick]) = (run ticks).advance tick := by
  rw [run, List.foldl_append, List.foldl_cons, List.foldl_nil, run]

end TelemetrySampler

end Darcbench.Inventory
