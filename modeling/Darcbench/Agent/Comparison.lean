import Darcbench.Agent.RunIndex
import Darcbench.Scoring.ExactMeans

/-!
# Comparing two runs

Two indexed runs are compared metric by metric.  The ratio of a metric is
oriented by the direction that the row of the baseline stores, so comparing the
other way round gives the reciprocal as long as both rows store the same
direction.
-/

namespace Darcbench

/-- A metric of the opening cycle. -/
structure IndexedMetric (F : Type) where
  module : String
  metricKey : String
  value : F
  unit : String
  direction : Direction

/-- One metric compared across two runs. -/
structure MetricDelta (F : Type) where
  module : String
  metricKey : String
  unit : String
  baseline : F
  candidate : F
  /-- Candidate relative to baseline, above one when the candidate is better. -/
  ratio : F

structure Comparison (F : Type) where
  baseline : IndexedRun F
  candidate : IndexedRun F
  metrics : List (MetricDelta F)
  /-- Metrics that could not be lined up, with the reason. -/
  unmatched : List String
  comparable : Bool
  incomparableReasons : List String

namespace MetricRow

variable {F : Type}

/-- The key of the metric in a comparison. -/
def scope (row : MetricRow F) : String :=
  scopedKey row.module.asStr row.metricKey

def toIndexed (row : MetricRow F) : IndexedMetric F where
  module := row.module.asStr
  metricKey := row.metricKey
  value := row.value
  unit := row.unit
  direction := directionFromKey row.direction

end MetricRow

namespace RunRow

variable {F : Type}

def openingMetrics (row : RunRow F) : List (MetricRow F) :=
  row.metrics.rows.filter fun metric => metric.cycle = 0

/-- The metrics of the opening cycle. -/
def metricsOf (row : RunRow F) : BTreeMap String (IndexedMetric F) :=
  Std.ExtTreeMap.ofList
    (row.openingMetrics.map fun metric => (metric.scope, metric.toIndexed))
    compare

/-- The modules behind each category. -/
def basketsOf (row : RunRow F) : BTreeMap String (Finset String) :=
  Std.ExtTreeMap.ofList
    (row.categories.rows.map fun category =>
      (category.key,
        (((category.modules.toList.splitOn ',').map String.ofList).filter
          fun m => m ≠ "").toFinset))
    compare

end RunRow

/-! ## What makes two runs differ -/

def comparabilityGaps {F : Type} (baseline candidate : IndexedRun F) :
    List String :=
  (if baseline.environmentDigest ≠ candidate.environmentDigest then
    ["These runs were taken on machines whose performance-relevant " ++
      "inventory differs (CPU, memory, topology or storage stack). The " ++
      "difference below includes the difference between the machines."]
  else []) ++
  (if baseline.scoringModel ≠ candidate.scoringModel then
    ["Scored by different models (" ++ baseline.scoringModel ++ " and " ++
      candidate.scoringModel ++ "). Raw metrics remain comparable; the " ++
      "scores do not."]
  else []) ++
  (if baseline.profile ≠ candidate.profile then
    ["Different profiles (" ++ baseline.profile ++ " and " ++
      candidate.profile ++ "), so the two runs did not measure the same set " ++
      "of work."]
  else []) ++
  (if baseline.profile = "endurance" ∨ candidate.profile = "endurance" then
    ["One of these runs cycled. The metric rows below are its opening " ++
      "cycle, while the              total scores are taken from its last " ++
      "complete one - so a flat row under a moved              total is " ++
      "the machine declining over the run, not noise. What a cycling run " ++
      "retained              is its own published Sustained Performance Score."]
  else []) ++
  (if baseline.buildTarget ≠ candidate.buildTarget then
    ["Different build targets (" ++ baseline.buildTarget ++ " and " ++
      candidate.buildTarget ++ ")."]
  else []) ++
  if baseline.agentVersion ≠ candidate.agentVersion then
    ["Different agent versions (" ++ baseline.agentVersion ++ " and " ++
      candidate.agentVersion ++ "); a workload may have changed between them."]
  else []

/-- The modules of a category, in order. -/
def named (ids : Finset String) : String :=
  String.intercalate ", " (ids.sort (· ≤ ·))

/-- A category computed from other modules than in the other run.  An empty
basket means that the bundle does not record its modules. -/
def basketGap? (others : BTreeMap String (Finset String))
    (entry : String × Finset String) : Option String :=
  match others[entry.1]? with
  | none => none
  | some after =>
      if entry.2 = after ∨ entry.2 = ∅ ∨ after = ∅ then none
      else
        some ("the " ++ entry.1 ++ " category was computed from different " ++
          "modules: " ++ named entry.2 ++ " then " ++ named after)

def basketGaps (before after : BTreeMap String (Finset String)) :
    List String :=
  before.toList.filterMap (basketGap? after)

/-! ## Lining up metrics -/

variable {F : Type} [F64 F]

/-- How a metric of the baseline appears in the comparison. -/
inductive Account (F : Type) where
  | matched (delta : MetricDelta F)
  | unmatched (text : String)

namespace Account

def delta? : Account F → Option (MetricDelta F)
  | matched delta => some delta
  | unmatched _ => none

def text? : Account F → Option String
  | matched _ => none
  | unmatched text => some text

end Account

def IndexedMetric.ratio (left right : IndexedMetric F) : F :=
  match left.direction with
  | .higherIsBetter => right.value / left.value
  | .lowerIsBetter => left.value / right.value

/-- The change between the measurements of two runs. -/
def IndexedMetric.delta (left right : IndexedMetric F) : MetricDelta F where
  module := left.module
  metricKey := left.metricKey
  unit := left.unit
  baseline := left.value
  candidate := right.value
  ratio := left.ratio right

/-- What becomes of one metric of the baseline.  A ratio needs both sides
positive. -/
def account (candidates : BTreeMap String (IndexedMetric F))
    (entry : String × IndexedMetric F) : Account F :=
  match candidates[entry.1]? with
  | none => .unmatched (entry.1 ++ " (baseline only)")
  | some right =>
      let left := entry.2
      if left.value ≤ 0.0 ∨ right.value ≤ 0.0 then
        .unmatched
          (entry.1 ++ " (not a positive measurement in both runs)")
      else if F64.isFinite (left.ratio right) then
        .matched (left.delta right)
      else
        .unmatched (entry.1 ++ " (ratio is not finite)")

def deltas (baseline candidate : BTreeMap String (IndexedMetric F)) :
    List (MetricDelta F) :=
  baseline.toList.filterMap fun entry => (account candidate entry).delta?

/-- A metric that the baseline does not have. -/
def candidateOnly? (baseline : BTreeMap String (IndexedMetric F))
    (entry : String × IndexedMetric F) : Option String :=
  if baseline.contains entry.1 then none
  else some (entry.1 ++ " (candidate only)")

def unmatchedTexts (baseline candidate : BTreeMap String (IndexedMetric F)) :
    List String :=
  ((baseline.toList.filterMap fun entry =>
      (account candidate entry).text?) ++
    candidate.toList.filterMap (candidateOnly? baseline)).mergeSort (· ≤ ·)

def RunRow.compareWith [Rfc3339] (baseline candidate : RunRow F) :
    Comparison F :=
  let reasons :=
    comparabilityGaps (rowToRun baseline) (rowToRun candidate) ++
      basketGaps baseline.basketsOf candidate.basketsOf
  { baseline := rowToRun baseline
    candidate := rowToRun candidate
    metrics := deltas baseline.metricsOf candidate.metricsOf
    unmatched := unmatchedTexts baseline.metricsOf candidate.metricsOf
    comparable := reasons.isEmpty
    incomparableReasons := reasons }

/-- Compares two indexed runs metric by metric. -/
def RunIndex.compare [Rfc3339] (index : RunIndex F)
    (baselineId candidateId : RunId) : Option (Comparison F) := do
  let baseline ← index.find? baselineId
  let candidate ← index.find? candidateId
  some (baseline.compareWith candidate)

end Darcbench
