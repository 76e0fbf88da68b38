import Darcbench.Agent.ModuleLoop
import Darcbench.Protocol.Comparison

/-!
# The variance sweeps of the measuring modules

A module that measures in repetitions sweeps its metrics and warns about those
whose repetitions were too unsteady.  The sweeps are written out in every
module.  All but one of them ask the rule that the summaries share.
-/

namespace Darcbench

variable {F : Type} [F64 F]

/-! ## The sweep of one module -/

/-- A sweep that asks the shared rule. -/
structure VarianceSweep (F : Type) where
  stabilityCvBound : F
  /-- The keys of metrics that the sweep passes over. -/
  passedOver : List String
  /-- The message about a metric, from its key, its coefficient of variation and
  the bound. -/
  message : String → F → F → String

/-- What the sweep says about one metric. -/
def VarianceSweep.warning (sweep : VarianceSweep F) (metric : Metric F) :
    Option Warning :=
  if metric.key ∈ sweep.passedOver then
    none
  else
    match metric.summary.cv with
    | none => none
    | some cv =>
        if metric.summary.isUnstable sweep.stabilityCvBound then
          some
            { code := .highVariance
              message :=
                sweep.message metric.key cv sweep.stabilityCvBound
              metricKey := some metric.key }
        else
          none

variable [F64.Display F]

/-- A share of one, shown as a percentage. -/
def percent (decimals : ℕ) (share : F) : String :=
  F64.Display.fixed decimals (share * 100.0)

def CpuMixed.sweep : VarianceSweep F where
  stabilityCvBound := 0.15
  passedOver := []
  message key cv bound :=
    let varied := percent 1 cv
    let limit := percent 0 bound
    s!"`{key}` varied by {varied}% between repetitions (bound {limit}%). On " ++
      "shared infrastructure this usually means CPU steal or a noisy " ++
      "neighbour rather than a measurement fault."

def StorageMixed.sweep : VarianceSweep F where
  stabilityCvBound := 0.20
  passedOver := []
  message key cv bound :=
    let varied := percent 1 cv
    let limit := percent 0 bound
    s!"`{key}` varied by {varied}% between repetitions (bound {limit}%). On " ++
      "shared storage this usually means a neighbouring tenant or " ++
      "background garbage collection rather than a measurement fault."

/-- Metrics that summarise one value for each network path. -/
def NetworkTransfer.pathLatencyMetrics : List String :=
  ["dns_resolve.mean", "tcp_connect.mean", "tcp_connect.jitter",
    "tls_handshake.mean", "ttfb.mean"]

def NetworkTransfer.sweep : VarianceSweep F where
  stabilityCvBound := 0.30
  passedOver := pathLatencyMetrics
  message key cv bound :=
    let varied := percent 0 cv
    let limit := percent 0 bound
    s!"`{key}` varied by {varied}% between repetitions (bound {limit}%). " ++
      "The internet is shared; this usually means congestion on the path " ++
      "rather than a fault in the machine."

/-- The message of the modules that start a process for each repetition. -/
def processMessage (key : String) (cv bound : F) : String :=
  let varied := percent 0 cv
  let limit := percent 0 bound
  s!"`{key}` varied by {varied}% across repetitions, above this module's " ++
    s!"{limit}% bound. Each repetition is its own process, so this usually " ++
    "means the machine was doing something else at the same time."

def PhpRuntime.sweep : VarianceSweep F where
  stabilityCvBound := 0.20
  passedOver := []
  message := processMessage

def NodeRuntime.sweep : VarianceSweep F where
  stabilityCvBound := 0.20
  passedOver := []
  message := processMessage

def WordpressSite.sweep : VarianceSweep F where
  stabilityCvBound := 0.2
  passedOver := []
  message key cv bound :=
    let varied := percent 0 cv
    let limit := percent 0 bound
    s!"`{key}` varied by {varied}% across requests (bound {limit}%). A " ++
      "WordPress render touches PHP, the database and the filesystem in " ++
      "one request, so this is usually the machine being shared rather " ++
      "than any one of the three being inconsistent."

def DeploymentContainer.sweep : VarianceSweep F where
  stabilityCvBound := 0.20
  passedOver := []
  message key cv bound :=
    let varied := percent 0 cv
    let limit := percent 0 bound
    s!"`{key}` varied by {varied}% across repetitions (bound {limit}%). " ++
      "Container start time is a daemon measurement as much as a machine " ++
      "one, so this usually means the runtime was doing something else - " ++
      "an image being pulled, another container starting - rather than " ++
      "that the hardware is inconsistent."

namespace WebStatic

def stabilityCvBound : F := 0.20

/-- The bound that the sweep of this module carries itself. -/
def bound : F := 0.20

def message (key : String) (cv bound : F) : String :=
  let varied := percent 0 cv
  let limit := percent 0 bound
  s!"`{key}` varied by {varied}% across repetitions, above this module's " ++
    s!"{limit}% bound. On a loopback HTTP measurement that usually means " ++
    "the machine was doing something else at the same time."

/-- This module compares the coefficient of variation itself and does not ask
the shared rule. -/
def warning (metric : Metric F) : Option Warning :=
  match metric.summary.cv with
  | none => none
  | some cv =>
      if bound < cv then
        some
          { code := .highVariance
            message := message metric.key cv bound
            metricKey := some metric.key }
      else
        none

end WebStatic

/-! ## All modules that sweep -/

inductive SweepingModule where
  | cpuMixed
  | storageMixed
  | networkTransfer
  | webStatic
  | phpRuntime
  | nodeRuntime
  | wordpressSite
  | deploymentContainer
  deriving DecidableEq

namespace SweepingModule

/-- The bound that the manifest of the module promises. -/
def stabilityCvBound : SweepingModule → F
  | cpuMixed => CpuMixed.sweep.stabilityCvBound
  | storageMixed => StorageMixed.sweep.stabilityCvBound
  | networkTransfer => NetworkTransfer.sweep.stabilityCvBound
  | webStatic => WebStatic.stabilityCvBound
  | phpRuntime => PhpRuntime.sweep.stabilityCvBound
  | nodeRuntime => NodeRuntime.sweep.stabilityCvBound
  | wordpressSite => WordpressSite.sweep.stabilityCvBound
  | deploymentContainer => DeploymentContainer.sweep.stabilityCvBound

def warning : SweepingModule → Metric F → Option Warning
  | cpuMixed => CpuMixed.sweep.warning
  | storageMixed => StorageMixed.sweep.warning
  | networkTransfer => NetworkTransfer.sweep.warning
  | webStatic => WebStatic.warning
  | phpRuntime => PhpRuntime.sweep.warning
  | nodeRuntime => NodeRuntime.sweep.warning
  | wordpressSite => WordpressSite.sweep.warning
  | deploymentContainer => DeploymentContainer.sweep.warning

/-- The warnings that the sweep over the finished metrics adds. -/
def sweep (module : SweepingModule) (metrics : List (Metric F)) :
    List Warning :=
  metrics.filterMap module.warning

/-! ## The shared rule -/

/-- The metrics that the rule is not applied to. -/
def exempt : SweepingModule → List String
  | networkTransfer => NetworkTransfer.pathLatencyMetrics
  | _ => []

/-- The rule that all modules share. -/
def rule (module : SweepingModule) (metric : Metric F) : Bool :=
  decide (metric.key ∉ module.exempt) &&
    metric.summary.isUnstable module.stabilityCvBound

/-- The sweep raises a warning for exactly the metrics that the rule names, and
the result is degraded for variance exactly when it names one. -/
structure FollowsTheRule (module : SweepingModule)
    (metrics : List (Metric F)) : Prop where
  raised_iff : ∀ metric ∈ metrics,
    ((module.warning metric).isSome = true ↔ module.rule metric = true)
  about : ∀ metric ∈ metrics, ∀ w ∈ module.warning metric,
    w.code = .highVariance ∧ w.metricKey = some metric.key
  degraded_iff : ∀ (own : List Warning) (moduleRef : ModuleRef) (cycle : ℕ)
    (time : Stopwatch F) (context : BTreeMap String (Value F)),
    (∀ w ∈ own, w.code.degradesResult = false) →
      ∀ result ∈ moduleResult moduleRef cycle time none
        (.output ⟨metrics, own ++ module.sweep metrics, context⟩),
        (result.status = .degraded ↔
          ∃ metric ∈ metrics, module.rule metric = true)

end SweepingModule

/-- The robust spread is above the bound, or there is none. -/
def Summary.SpreadsBeyond (s : Summary F) (bound : F) : Prop :=
  match s.relativeMad <|> s.relativeCi with
  | some relative => bound < relative
  | none => True

/-- The coefficient of variation is above the bound and the robust spread is
not; or the coefficient cannot be compared and the robust spread is above the
bound. -/
def Summary.Disputed (s : Summary F) (bound : F) : Prop :=
  ∃ cv, s.cv = some cv ∧
    (bound < cv ∧ ¬ s.SpreadsBeyond bound ∨
      ¬ bound < cv ∧ ¬ cv ≤ bound ∧ s.SpreadsBeyond bound)

omit [F64.Display F] in
theorem Summary.isUnstable_iff {s : Summary F} {bound : F} :
    s.isUnstable bound = true ↔
      ∃ cv, s.cv = some cv ∧ ¬ cv ≤ bound ∧ s.SpreadsBeyond bound := by
  rw [isUnstable, SpreadsBeyond]
  cases hcv : s.cv with
  | none => simp
  | some cv =>
      by_cases hle : cv ≤ bound
      · simp [hle]
      · cases hspread : (s.relativeMad <|> s.relativeCi) with
        | none => simp [hle]
        | some relative => simp [hle]

omit [F64.Display F] in
/-- A metric is swept by the shared rule unless it is passed over. -/
theorem VarianceSweep.isSome_warning_iff (sweep : VarianceSweep F)
    (metric : Metric F) :
    (sweep.warning metric).isSome = true ↔
      metric.key ∉ sweep.passedOver ∧
        metric.summary.isUnstable sweep.stabilityCvBound = true := by
  rw [warning]
  by_cases hkey : metric.key ∈ sweep.passedOver
  · simp [hkey]
  · cases hcv : metric.summary.cv with
    | none => simp [hkey, Summary.isUnstable, hcv]
    | some cv =>
        by_cases hunstable :
            metric.summary.isUnstable sweep.stabilityCvBound = true
        · simp [hkey, hunstable]
        · simp [hkey, hunstable]

omit [F64.Display F] in
theorem VarianceSweep.about_warning (sweep : VarianceSweep F)
    (metric : Metric F) :
    ∀ w ∈ sweep.warning metric,
      w.code = .highVariance ∧ w.metricKey = some metric.key := by
  intro w hw
  rw [warning] at hw
  split at hw
  · exact absurd hw (by simp)
  · split at hw
    · exact absurd hw (by simp)
    · rw [Option.mem_def, Option.ite_none_right_eq_some] at hw
      obtain ⟨-, hw⟩ := hw
      obtain rfl := Option.some.inj hw
      exact ⟨rfl, rfl⟩

namespace WebStatic

theorem isSome_warning_iff (metric : Metric F) :
    (warning metric).isSome = true ↔
      ∃ cv, metric.summary.cv = some cv ∧ bound < cv := by
  rw [warning]
  cases hcv : metric.summary.cv with
  | none => simp
  | some cv =>
      by_cases hlt : bound < cv
      · simp [hlt]
      · simp [hlt]

theorem about_warning (metric : Metric F) :
    ∀ w ∈ warning metric,
      w.code = .highVariance ∧ w.metricKey = some metric.key := by
  intro w hw
  rw [warning] at hw
  split at hw
  · exact absurd hw (by simp)
  · rw [Option.mem_def, Option.ite_none_right_eq_some] at hw
    obtain ⟨-, hw⟩ := hw
    obtain rfl := Option.some.inj hw
    exact ⟨rfl, rfl⟩

/-- The comparison of this module agrees with the shared rule exactly when the
two measures of spread do not disagree about the metric. -/
theorem raised_iff_rule [F64.Strict F] (metric : Metric F) :
    ((warning metric).isSome = true ↔
        metric.summary.isUnstable bound = true) ↔
      ¬ metric.summary.Disputed bound := by
  rw [isSome_warning_iff, Summary.isUnstable_iff, Summary.Disputed]
  cases hcv : metric.summary.cv with
  | none => simp
  | some cv =>
      have hstrict := F64.Strict.not_le_of_lt (bound : F) cv
      by_cases hlt : bound < cv
      · simp [hlt, hstrict hlt]
      · simp [hlt]

end WebStatic

namespace SweepingModule

variable {module : SweepingModule} {metrics : List (Metric F)}

theorem about_warning (module : SweepingModule) (metric : Metric F) :
    ∀ w ∈ module.warning metric,
      w.code = .highVariance ∧ w.metricKey = some metric.key := by
  cases module with
  | webStatic => exact WebStatic.about_warning metric
  | _ => exact VarianceSweep.about_warning _ metric

/-- A sweep adds a degrading warning when it says something about a metric. -/
theorem any_degradesResult_sweep (module : SweepingModule)
    (metrics : List (Metric F)) :
    ((module.sweep metrics).any fun w => w.code.degradesResult) = true ↔
      ∃ metric ∈ metrics, (module.warning metric).isSome = true := by
  rw [List.any_eq_true]
  constructor
  · rintro ⟨w, hw, -⟩
    obtain ⟨metric, hmetric, hwarning⟩ := List.mem_filterMap.mp hw
    exact ⟨metric, hmetric, Option.isSome_iff_exists.mpr ⟨w, hwarning⟩⟩
  · rintro ⟨metric, hmetric, hsome⟩
    obtain ⟨w, hw⟩ := Option.isSome_iff_exists.mp hsome
    refine ⟨w, List.mem_filterMap.mpr ⟨metric, hmetric, hw⟩, ?_⟩
    rw [(module.about_warning metric w hw).1]
    rfl

/-- A module follows the rule when its warnings do. -/
theorem followsTheRule_of_raised_iff
    (hraised : ∀ metric ∈ metrics,
      ((module.warning metric).isSome = true ↔ module.rule metric = true)) :
    module.FollowsTheRule metrics where
  raised_iff := hraised
  about metric _ := module.about_warning metric
  degraded_iff := by
    intro own moduleRef cycle time context hown result hresult
    obtain rfl := Option.some.inj hresult
    have hclean : (own.any fun w => w.code.degradesResult) = false :=
      List.any_eq_false.mpr fun w hw => by
        rw [hown w hw]
        exact Bool.false_ne_true
    have hstatus : ∀ degraded : Bool,
        (if degraded = true then ModuleStatus.degraded
          else ModuleStatus.completed) = .degraded ↔ degraded = true := by
      decide
    have hrule : (∃ metric ∈ metrics, (module.warning metric).isSome = true) ↔
        ∃ metric ∈ metrics, module.rule metric = true := by
      constructor
      · rintro ⟨metric, hmetric, hwarning⟩
        exact ⟨metric, hmetric, (hraised metric hmetric).mp hwarning⟩
      · rintro ⟨metric, hmetric, hmet⟩
        exact ⟨metric, hmetric, (hraised metric hmetric).mpr hmet⟩
    rw [hstatus, ← hrule, ← any_degradesResult_sweep, List.any_append,
      List.any_append, hclean, Bool.false_or]
    simp

/-- Two modules that follow the rule with the same bound agree about every
metric that neither of them passes over. -/
theorem FollowsTheRule.agree {other : SweepingModule}
    (h : module.FollowsTheRule metrics) (h' : other.FollowsTheRule metrics)
    (hbound : (module.stabilityCvBound : F) = other.stabilityCvBound)
    {metric : Metric F} (hmetric : metric ∈ metrics)
    (hkey : metric.key ∉ module.exempt) (hkey' : metric.key ∉ other.exempt) :
    (module.warning metric).isSome = (other.warning metric).isSome := by
  have hsame : module.rule metric = other.rule metric := by
    rw [rule, rule, hbound, decide_eq_true hkey, decide_eq_true hkey']
  rw [Bool.eq_iff_iff, h.raised_iff metric hmetric, hsame,
    h'.raised_iff metric hmetric]

/-- Four repetitions of which one was slow. -/
def wildMetric : Metric Float where
  key := "throughput.small"
  label := "Small responses"
  unit := "requests/s"
  direction := .higherIsBetter
  value := 100.0
  summary :=
    { n := 4
      min := 100.0
      max := 180.0
      mean := 120.0
      median := 100.0
      stddev := 40.0
      cv := some (40.0 / 120.0)
      ci95 := none
      mad := some 0.0 }
  samples :=
    [⟨0, 100.0, 1000.0, false⟩, ⟨1, 100.0, 1000.0, false⟩,
      ⟨2, 180.0, 1000.0, false⟩, ⟨3, 100.0, 1000.0, false⟩]
  outliers := [2]
  measuresDispersion := false
  tailQuantile := false

end SweepingModule

end Darcbench
