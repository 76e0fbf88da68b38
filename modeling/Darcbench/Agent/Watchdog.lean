import Darcbench.Inventory.Types
import Darcbench.Protocol.Display
import Darcbench.Support.Streaks

/-!
# The watchdog of a run

Once a second the telemetry task samples the machine and asks the watchdog what
to do about the sample.  The watchdog stops a run that outlasts its ceiling, a
machine that stays too hot and a machine that was given other work.  A lighter
competition for the CPU is noted on the handle, where the module loop collects
it.
-/

namespace Darcbench

/-! ## What the watchdog and the module loop share -/

/-- The part of a run's handle that the watchdog and the module loop share. -/
structure Supervision where
  /-- How long a cycling profile repeats the module set, in nanoseconds. -/
  cycleTarget : Option ℕ
  /-- External work seen since the slot was last cleared. -/
  contention : Option Warning
  loadCeilingSuspended : Bool
  loadCeilingWasSuspended : Bool

namespace Supervision

def new (cycleTarget : Option ℕ) : Supervision where
  cycleTarget := cycleTarget
  contention := none
  loadCeilingSuspended := false
  loadCeilingWasSuspended := false

/-- The newest reading overwrites an older one. -/
def noteContention (handle : Supervision) (warning : Warning) : Supervision :=
  { handle with contention := some warning }

/-- Clears the slot. -/
def takeContention (handle : Supervision) : Supervision :=
  { handle with contention := none }

def setLoadCeilingSuspended (handle : Supervision) (suspended : Bool) :
    Supervision :=
  { handle with
    loadCeilingSuspended := suspended
    loadCeilingWasSuspended := handle.loadCeilingWasSuspended || suspended }

/-- Nanoseconds of a number of seconds. -/
def seconds (n : ℕ) : ℕ :=
  n * 10 ^ 9

/-- The longest that an operator can ask a run to cycle. -/
def enduranceMaxMinutes : ℕ := 24 * 60

/-- The longest that the run may occupy the machine. -/
def hardRuntimeCeiling (handle : Supervision) : ℕ :=
  let requested := handle.cycleTarget.getD (seconds 3600)
  min (requested * 2) (seconds (enduranceMaxMinutes * 60 + 3600))

end Supervision

/-! ## Samples and verdicts -/

/-- What the watchdog reads of a telemetry sample. -/
structure TelemetrySnapshot (F : Type) where
  cpuTempC : Option F
  cpuExternalBusyPct : F
  /-- The CPU percentages of this sample are placeholders. -/
  cpuUnavailable : Bool

/-- A sample, and the time since the start of the run in nanoseconds. -/
structure Tick (F : Type) where
  elapsed : ℕ
  snapshot : TelemetrySnapshot F

/-- What the watchdog decided about a sample. -/
inductive WatchdogVerdict where
  /-- Stop the run. -/
  | abort (warning : Warning)
  /-- Keep measuring, though the module in flight is not clean. -/
  | degrade (warning : Warning)
  deriving DecidableEq

/-- The facts about the host that decide whether the load ceiling is armed. -/
structure HostView (F : Type) where
  scope : Scope
  cgroupCpuLimit : Option F
  logicalCpus : ℕ

variable {F : Type} [F64 F]

/-- The machine-wide CPU figures may count CPUs that the run is not entitled
to. -/
def HostView.procStatMayDescribeTheHost (host : HostView F) : Bool :=
  host.scope == .container ||
    host.cgroupCpuLimit.any fun limit =>
      decide (0.0 < limit) && decide (limit < F64.ofNat host.logicalCpus)

structure Watchdog where
  consecutiveHot : ℕ
  consecutiveContended : ℕ
  consecutiveHeavilyContended : ℕ
  /-- The contended stretch has already been announced. -/
  contentionReported : Bool
  externalLoadEnforced : Bool

namespace Watchdog

def thermalAbortC : F := 100.0

def thermalAbortSamples : ℕ := 30

def externalLoadWarnPct : F := 10.0

def externalLoadWarnSamples : ℕ := 20

def externalLoadAbortPct : F := 40.0

def externalLoadAbortSamples : ℕ := 300

def new (host : HostView F) : Watchdog where
  consecutiveHot := 0
  consecutiveContended := 0
  consecutiveHeavilyContended := 0
  contentionReported := false
  externalLoadEnforced := !host.procStatMayDescribeTheHost

/-! ## The warnings -/

def ceilingWarning (elapsed ceiling : ℕ) : Warning where
  code := .validationFailed
  message :=
    s!"Stopped by the watchdog after {elapsed / 10 ^ 9 / 60} minutes, past " ++
      s!"this run's {ceiling / 10 ^ 9 / 60} minute ceiling. Something " ++
      "inside a cycle stopped making progress; the results collected up " ++
      "to that point are kept and the run is marked interrupted."
  metricKey := none

variable [F64.Display F]

def thermalWarning (temp : F) : Warning where
  code := .thermalThrottle
  message :=
    let shown := F64.Display.fixed 0 temp
    let threshold := F64.Display.fixed 0 (thermalAbortC : F)
    s!"Stopped by the watchdog: package temperature held at {shown} C for " ++
      s!"{thermalAbortSamples} seconds, at or above the {threshold} C abort " ++
      "threshold. Throttling itself is measured rather than prevented - " ++
      "it is the finding - but a machine that stays at this temperature " ++
      "is one whose own limiter is no longer keeping up, and continuing " ++
      "would put the components around the CPU at risk on a machine this " ++
      "tool does not own."
  metricKey := none

def externalLoadAbortWarning (external : F) : Warning where
  code := .externalLoad
  message :=
    let shown := F64.Display.fixed 0 external
    let ceiling := F64.Display.fixed 0 (externalLoadAbortPct : F)
    "Stopped by the watchdog: work other than this benchmark used " ++
      s!"{shown}% of the machine's CPU for at least " ++
      s!"{externalLoadAbortSamples / 60} minutes, past the {ceiling}% load " ++
      "ceiling. Nothing measured under that much competition describes " ++
      "the machine, so the run is stopped rather than continued to a " ++
      "number that would have to be thrown away - and the machine is " ++
      "handed back to whatever else needs it. The results collected " ++
      "before the contention began are kept."
  metricKey := none

def contentionWarning (external : F) : Warning where
  code := .externalLoad
  message :=
    let shown := F64.Display.fixed 0 external
    s!"Work other than this benchmark used {shown}% of the machine's CPU " ++
      s!"for at least {externalLoadWarnSamples} seconds during the measured " ++
      "window. The measurements are kept as evidence, and every module " ++
      "taken while it lasted is reported as degraded: they describe a " ++
      "machine sharing its CPU with something else, which is not the " ++
      "machine anyone is asking about."
  metricKey := none

/-! ## Checking a sample -/

/-- The load ceiling proper. -/
def checkExternalLoad (watchdog : Watchdog) (handle : Supervision)
    (snapshot : TelemetrySnapshot F) :
    Option WatchdogVerdict × Watchdog × Supervision :=
  if !watchdog.externalLoadEnforced then
    (none, watchdog, handle)
  else if handle.loadCeilingSuspended then
    -- The counters are reset, so no stretch spans the suspension.
    (none,
      { watchdog with
        consecutiveContended := 0
        consecutiveHeavilyContended := 0
        contentionReported := false },
      handle)
  else if snapshot.cpuUnavailable then
    -- Nobody measured this tick, so the counters are held.
    (none, watchdog, handle)
  else
    let external := snapshot.cpuExternalBusyPct
    let watchdog := { watchdog with
      consecutiveHeavilyContended :=
        if externalLoadAbortPct ≤ external then
          watchdog.consecutiveHeavilyContended + 1
        else
          0 }
    if externalLoadAbortSamples ≤ watchdog.consecutiveHeavilyContended then
      (some (.abort (externalLoadAbortWarning external)), watchdog, handle)
    else if externalLoadWarnPct ≤ external then
      let watchdog := { watchdog with
        consecutiveContended := watchdog.consecutiveContended + 1 }
      if watchdog.consecutiveContended < externalLoadWarnSamples then
        (none, watchdog, handle)
      else
        let warning := contentionWarning external
        let handle := handle.noteContention warning
        if watchdog.contentionReported then
          (none, watchdog, handle)
        else
          (some (.degrade warning),
            { watchdog with contentionReported := true }, handle)
    else
      (none,
        { watchdog with
          consecutiveContended := 0
          contentionReported := false },
        handle)

/-- Decides what to do about one sample. -/
def check (watchdog : Watchdog) (handle : Supervision) (tick : Tick F) :
    Option WatchdogVerdict × Watchdog × Supervision :=
  let ceiling := handle.hardRuntimeCeiling
  if ceiling < tick.elapsed then
    (some (.abort (ceilingWarning tick.elapsed ceiling)), watchdog, handle)
  else
    match tick.snapshot.cpuTempC with
    | some temp =>
        if thermalAbortC ≤ temp then
          let watchdog := { watchdog with
            consecutiveHot := watchdog.consecutiveHot + 1 }
          if thermalAbortSamples ≤ watchdog.consecutiveHot then
            (some (.abort (thermalWarning temp)), watchdog, handle)
          else
            watchdog.checkExternalLoad handle tick.snapshot
        else
          { watchdog with consecutiveHot := 0 }.checkExternalLoad handle
            tick.snapshot
    -- A sample without a temperature clears the tally as a cooler one does.
    | none =>
        { watchdog with consecutiveHot := 0 }.checkExternalLoad handle
          tick.snapshot

/-! ## What a check can lead to -/

/-- The sample shows a temperature at or above the threshold. -/
def isHot (temp : F) : Bool :=
  decide (thermalAbortC ≤ temp)

def isContended (external : F) : Bool :=
  decide (externalLoadWarnPct ≤ external)

def isHeavilyContended (external : F) : Bool :=
  decide (externalLoadAbortPct ≤ external)

/-- The sample is one of the hot ones that the thermal guard counts. -/
def showsHeat (tick : Tick F) : Bool :=
  tick.snapshot.cpuTempC.any Watchdog.isHot

/-- The reading that the load guard takes of a sample. -/
def loadReading (watchdog : Watchdog) (handle : Supervision)
    (snapshot : TelemetrySnapshot F) : Option F :=
  if watchdog.externalLoadEnforced && !handle.loadCeilingSuspended &&
      !snapshot.cpuUnavailable then
    some snapshot.cpuExternalBusyPct
  else
    none

variable {watchdog : Watchdog} {handle : Supervision}

/-- Without a reading the load guard decides nothing, and it keeps its tallies
unless the ceiling is suspended. -/
theorem checkExternalLoad_of_none {snapshot : TelemetrySnapshot F}
    (hnone : watchdog.loadReading handle snapshot = none) :
    (watchdog.checkExternalLoad handle snapshot).1 = none ∧
      (watchdog.checkExternalLoad handle snapshot).2.2 = handle ∧
      (handle.loadCeilingSuspended = false →
        (watchdog.checkExternalLoad handle snapshot).2.1 = watchdog) := by
  rw [loadReading, ite_eq_right_iff] at hnone
  rw [checkExternalLoad]
  by_cases henforced : watchdog.externalLoadEnforced = true
  · by_cases hsuspended : handle.loadCeilingSuspended = true
    · simp [henforced, hsuspended]
    · have hunavailable : snapshot.cpuUnavailable = true := by
        by_contra hmeasured
        simp [henforced, hsuspended, hmeasured] at hnone
      simp [henforced, hsuspended, hunavailable]
  · simp [henforced]

/-- The five ways in which a reading of the external load is judged. -/
theorem checkExternalLoad_of_some {snapshot : TelemetrySnapshot F} {external : F}
    (hsome : watchdog.loadReading handle snapshot = some external)
    {heavily : ℕ} (hheavily : heavily = tally (isHeavilyContended external)
      watchdog.consecutiveHeavilyContended) :
    (externalLoadAbortSamples ≤ heavily ∧
      watchdog.checkExternalLoad handle snapshot =
        (some (.abort (externalLoadAbortWarning external)),
          { watchdog with consecutiveHeavilyContended := heavily }, handle)) ∨
    (heavily < externalLoadAbortSamples ∧ isContended external = false ∧
      watchdog.checkExternalLoad handle snapshot =
        (none,
          { watchdog with
            consecutiveHeavilyContended := heavily
            consecutiveContended := 0
            contentionReported := false }, handle)) ∨
    (heavily < externalLoadAbortSamples ∧ isContended external = true ∧
      watchdog.consecutiveContended + 1 < externalLoadWarnSamples ∧
      watchdog.checkExternalLoad handle snapshot =
        (none,
          { watchdog with
            consecutiveHeavilyContended := heavily
            consecutiveContended := watchdog.consecutiveContended + 1 },
          handle)) ∨
    (heavily < externalLoadAbortSamples ∧ isContended external = true ∧
      externalLoadWarnSamples ≤ watchdog.consecutiveContended + 1 ∧
      watchdog.contentionReported = true ∧
      watchdog.checkExternalLoad handle snapshot =
        (none,
          { watchdog with
            consecutiveHeavilyContended := heavily
            consecutiveContended := watchdog.consecutiveContended + 1 },
          handle.noteContention (contentionWarning external))) ∨
    (heavily < externalLoadAbortSamples ∧ isContended external = true ∧
      externalLoadWarnSamples ≤ watchdog.consecutiveContended + 1 ∧
      watchdog.contentionReported = false ∧
      watchdog.checkExternalLoad handle snapshot =
        (some (.degrade (contentionWarning external)),
          { watchdog with
            consecutiveHeavilyContended := heavily
            consecutiveContended := watchdog.consecutiveContended + 1
            contentionReported := true },
          handle.noteContention (contentionWarning external))) := by
  obtain ⟨hot, contended, heavilyBefore, reported, enforced⟩ := watchdog
  rw [loadReading, Option.ite_none_right_eq_some, Option.some_inj] at hsome
  obtain ⟨hmeasured, rfl⟩ := hsome
  simp only [Bool.and_eq_true, Bool.not_eq_true'] at hmeasured
  obtain ⟨⟨rfl, hsuspended⟩, havailable⟩ := hmeasured
  have htally : heavily =
      if externalLoadAbortPct ≤ snapshot.cpuExternalBusyPct then
        heavilyBefore + 1
      else
        0 := by
    simp only [hheavily, tally, isHeavilyContended, decide_eq_true_eq]
  have hcheck := checkExternalLoad.eq_1
    ⟨hot, contended, heavilyBefore, reported, true⟩ handle snapshot
  simp only [hsuspended, havailable, ← htally, Bool.not_true,
    Bool.false_eq_true, if_false] at hcheck
  rw [hcheck, isContended, decide_eq_true_eq, decide_eq_false_iff_not]
  by_cases habort : externalLoadAbortSamples ≤ heavily
  · exact .inl ⟨habort, if_pos habort⟩
  have hlt := Nat.not_le.mp habort
  rw [if_neg habort]
  by_cases hcontended : externalLoadWarnPct ≤ snapshot.cpuExternalBusyPct
  · rw [if_pos hcontended]
    by_cases hfew : contended + 1 < externalLoadWarnSamples
    · exact .inr (.inr (.inl ⟨hlt, hcontended, hfew, if_pos hfew⟩))
    have hmany := Nat.not_lt.mp hfew
    rw [if_neg hfew]
    cases reported with
    | true => exact .inr (.inr (.inr (.inl ⟨hlt, hcontended, hmany, rfl, rfl⟩)))
    | false =>
        exact .inr (.inr (.inr (.inr ⟨hlt, hcontended, hmany, rfl, rfl⟩)))
  · exact .inr (.inl ⟨hlt, hcontended, if_neg hcontended⟩)

/-- Below the runtime ceiling, a sample that does not complete a hot stretch is
left to the load guard. -/
theorem check_of_le {tick : Tick F}
    (hceiling : tick.elapsed ≤ handle.hardRuntimeCeiling) {hot : ℕ}
    (hhot : hot = tally (showsHeat tick) watchdog.consecutiveHot) :
    (thermalAbortSamples ≤ hot ∧
      ∃ temp : F, watchdog.check handle tick =
        (some (.abort (thermalWarning temp)),
          { watchdog with consecutiveHot := hot }, handle)) ∨
    (hot < thermalAbortSamples ∧
      watchdog.check handle tick =
        { watchdog with consecutiveHot := hot }.checkExternalLoad handle
          tick.snapshot) := by
  have hpositive : ¬ thermalAbortSamples ≤ 0 := by decide
  rw [check, if_neg (Nat.not_lt.mpr hceiling)]
  cases htemp : tick.snapshot.cpuTempC with
  | none =>
      have hzero : hot = 0 := by simp [hhot, tally, showsHeat, htemp]
      subst hzero
      exact .inr ⟨Nat.not_le.mp hpositive, rfl⟩
  | some temp =>
      by_cases habove : thermalAbortC ≤ temp
      · have hsucc : hot = watchdog.consecutiveHot + 1 := by
          simp [hhot, tally, showsHeat, htemp, isHot, habove]
        subst hsucc
        simp only [if_pos habove]
        by_cases hlong : thermalAbortSamples ≤ watchdog.consecutiveHot + 1
        · exact .inl ⟨hlong, temp, if_pos hlong⟩
        · exact .inr ⟨Nat.not_le.mp hlong, if_neg hlong⟩
      · have hzero : hot = 0 := by
          simp [hhot, tally, showsHeat, htemp, isHot, habove]
        subst hzero
        exact .inr ⟨Nat.not_le.mp hpositive, if_neg habove⟩

/-- All that a check does to the handle is to note contention, and what it does
else does not depend on what was noted before. -/
theorem checkExternalLoad_eq (watchdog : Watchdog) (handle : Supervision)
    (snapshot : TelemetrySnapshot F) :
    watchdog.checkExternalLoad handle snapshot =
      let e := watchdog.checkExternalLoad handle.takeContention snapshot
      (e.1, e.2.1,
        { handle with contention := e.2.2.contention <|> handle.contention }) := by
  obtain ⟨cycleTarget, contention, suspended, wasSuspended⟩ := handle
  rw [checkExternalLoad, checkExternalLoad]
  by_cases henforced : watchdog.externalLoadEnforced = true
  · cases suspended with
    | true => simp [henforced, Supervision.takeContention]
    | false =>
        by_cases havailable : snapshot.cpuUnavailable = true
        · simp [henforced, havailable, Supervision.takeContention]
        · simp only [henforced, havailable, Supervision.takeContention,
            Bool.not_true, Bool.false_eq_true, if_false]
          generalize
            (if externalLoadAbortPct ≤ snapshot.cpuExternalBusyPct then
              watchdog.consecutiveHeavilyContended + 1 else 0) = heavily
          by_cases habort : externalLoadAbortSamples ≤ heavily
          · simp [habort]
          by_cases hcontended :
              externalLoadWarnPct ≤ snapshot.cpuExternalBusyPct
          · by_cases hfew :
                watchdog.consecutiveContended + 1 < externalLoadWarnSamples
            · simp [habort, hcontended, hfew]
            · cases hreported : watchdog.contentionReported <;>
                simp [habort, hcontended, hfew, Supervision.noteContention]
          · simp [habort, hcontended]
  · simp [henforced, Supervision.takeContention]

theorem check_eq (watchdog : Watchdog) (handle : Supervision)
    (tick : Tick F) :
    watchdog.check handle tick =
      let e := watchdog.check handle.takeContention tick
      (e.1, e.2.1,
        { handle with
          contention := e.2.2.contention <|> handle.contention }) := by
  have hload := fun w : Watchdog =>
    checkExternalLoad_eq w handle tick.snapshot
  have hceiling : handle.takeContention.hardRuntimeCeiling =
      handle.hardRuntimeCeiling :=
    rfl
  rw [check, check, hceiling]
  by_cases hlate : handle.hardRuntimeCeiling < tick.elapsed
  · simp only [if_pos hlate]
    rfl
  · simp only [if_neg hlate]
    cases tick.snapshot.cpuTempC with
    | none => exact hload _
    | some temp =>
        by_cases habove : thermalAbortC ≤ temp
        · by_cases hlong : thermalAbortSamples ≤ watchdog.consecutiveHot + 1
          · simp only [if_pos habove, if_pos hlong]
            rfl
          · simp only [if_pos habove, if_neg hlong]
            exact hload _
        · simp only [if_neg habove]
          exact hload _

theorem code_of_checkExternalLoad {snapshot : TelemetrySnapshot F}
    {warning : Warning} (hempty : handle.contention = none)
    (h : (watchdog.checkExternalLoad handle snapshot).2.2.contention =
      some warning) :
    warning.code = .externalLoad := by
  cases hreading : watchdog.loadReading handle snapshot with
  | none =>
      rw [(checkExternalLoad_of_none hreading).2.1, hempty] at h
      exact absurd h (by simp)
  | some external =>
      obtain ⟨-, he⟩ | ⟨-, -, he⟩ | ⟨-, -, -, he⟩ | ⟨-, -, -, -, he⟩ |
          ⟨-, -, -, -, he⟩ :=
        checkExternalLoad_of_some hreading rfl
      all_goals rw [he] at h
      · exact absurd (hempty.symm.trans h) (by simp)
      · exact absurd (hempty.symm.trans h) (by simp)
      · exact absurd (hempty.symm.trans h) (by simp)
      · exact Option.some.inj h ▸ rfl
      · exact Option.some.inj h ▸ rfl

/-- Only contention is noted. -/
theorem code_of_check {tick : Tick F} {warning : Warning}
    (hempty : handle.contention = none)
    (h : (watchdog.check handle tick).2.2.contention = some warning) :
    warning.code = .externalLoad := by
  by_cases hceiling : tick.elapsed ≤ handle.hardRuntimeCeiling
  · obtain ⟨-, temp, he⟩ | ⟨-, he⟩ := check_of_le hceiling rfl
    · rw [he] at h
      exact absurd (hempty.symm.trans h) (by simp)
    · rw [he] at h
      exact code_of_checkExternalLoad hempty h
  · rw [check, if_pos (Nat.not_le.mp hceiling)] at h
    exact absurd (hempty.symm.trans h) (by simp)

end Watchdog

end Darcbench
