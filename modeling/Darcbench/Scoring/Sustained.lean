import Darcbench.Protocol.Metrics
import Darcbench.Scoring.Reference
import Mathlib.Data.Finset.Basic

/-!
# Retention over the cycles of a run

An endurance run repeats its module set.  The scored cycle is the last complete
one, and the decline between the opening and the closing cycles is measured
metric by metric.
-/

namespace Darcbench

variable {F : Type} [F64 F]

/-- Score of the reference machine in every category. -/
def referenceAnchor : F := 1000.0

/-- How the throughput of a run held up across its cycles. -/
structure SustainedOutcome (F : Type) where
  /-- Fraction of the opening performance still present at the end. -/
  retention : F
  score : F
  cycles : ℕ
  scoredCycle : ℕ
  /-- Retention of each metric, keyed `<module_id>/<metric_key>`. -/
  byMetric : BTreeMap String F

namespace Sustained

/-- Fewest cycles from which retention may be computed. -/
def minCyclesForRetention : ℕ := 2

/-! ## Complete cycles -/

/-- The modules seen in each cycle, and in any cycle. -/
structure CycleSets where
  byCycle : BTreeMap ℕ (Finset String)
  expected : Finset String

def CycleSets.empty : CycleSets where
  byCycle := ∅
  expected := ∅

/-- Records a module, unless its result cannot be scored. -/
def CycleSets.record (sets : CycleSets) (module : ModuleResult F) :
    CycleSets :=
  if module.status.isScoreable then
    { byCycle := sets.byCycle.alter module.cycle fun present =>
        some (insert module.module.id.asStr (present.getD ∅))
      expected := insert module.module.id.asStr sets.expected }
  else
    sets

/-- Cycle indices that ran the full module set, in ascending order. -/
def completeCycles (modules : List (ModuleResult F)) : List ℕ :=
  let sets := modules.foldl CycleSets.record CycleSets.empty
  if sets.expected = ∅ then
    []
  else
    (sets.byCycle.toList.filter fun entry => entry.2 = sets.expected).map
      Prod.fst

/-- The cycle whose measurements are scored: the last complete one. -/
def scoringCycle (modules : List (ModuleResult F)) : ℕ :=
  (completeCycles modules).getLast?.getD 0

/-! ## Retention -/

/-- Median of a list that the caller has not sorted. -/
def median (values : List F) : Option F :=
  if values.isEmpty then none else F64.medianOfSorted (F64.sortTotal values)

/-- One observation of a metric. -/
structure Observation (F : Type) where
  cycle : ℕ
  value : F
  direction : Direction

/-- The observations of each metric, in the order of the module results. -/
abbrev Series (F : Type) : Type :=
  BTreeMap String (List (Observation F))

/-- Appends a metric to its series, unless its value is unusable. -/
def recordMetric (module : ModuleResult F) (series : Series F)
    (metric : Metric F) : Series F :=
  if !F64.isFinite metric.value || decide (metric.value ≤ 0.0) then
    series
  else
    series.alter (scopedKey module.module.id.asStr metric.key) fun points =>
      some (points.getD [] ++ [⟨module.cycle, metric.value, metric.direction⟩])

/-- Appends the metrics of a module of an eligible cycle. -/
def recordModule (eligible : List ℕ) (series : Series F)
    (module : ModuleResult F) : Series F :=
  if !eligible.contains module.cycle then
    series
  else if !module.status.isScoreable then
    series
  else
    module.metrics.foldl (recordMetric module) series

/-- The direction-adjusted ratio of the closing to the opening value. -/
def retained (direction : Direction) (first last : F) : F :=
  match direction with
  | .higherIsBetter => last / first
  | .lowerIsBetter => first / last

/-- The values that a series has within a window of cycles. -/
def windowValues (window : List ℕ) (points : List (Observation F)) : List F :=
  (points.filter fun point => window.contains point.cycle).map (·.value)

/-- What one series contributes to the retention of a run.  The outer option
is the early return of the source on a series without observations. -/
def retainedOf (opening closing : List ℕ) (points : List (Observation F)) :
    Option (Option F) := do
  let direction ← points.head?.map (·.direction)
  match median (windowValues opening points),
      median (windowValues closing points) with
  | some first, some last =>
      if first ≤ 0.0 ∨ last ≤ 0.0 then
        some none
      else
        let ratio := retained direction first last
        if F64.isFinite ratio ∧ 0.0 < ratio then
          some (some ratio)
        else
          some none
  | _, _ => some none

/-- Collects the retention of every series that has one. -/
def retainedByMetric (opening closing : List ℕ) :
    List (String × List (Observation F)) → BTreeMap String F →
      Option (BTreeMap String F)
  | [], byMetric => some byMetric
  | (key, points) :: rest, byMetric => do
      match ← retainedOf opening closing points with
      | some ratio =>
          retainedByMetric opening closing rest (byMetric.insert key ratio)
      | none => retainedByMetric opening closing rest byMetric

/-- Measures how much of its opening performance a cycled run retained. -/
def analyse (modules : List (ModuleResult F)) :
    Option (SustainedOutcome F) := do
  let cycles := completeCycles modules
  if cycles.length < minCyclesForRetention then
    none
  else
    let series := modules.foldl (recordModule cycles) ∅
    let window := Nat.max (cycles.length / 3) 1
    let opening := cycles.take window
    let closing := cycles.reverse.take window
    let byMetric ← retainedByMetric opening closing series.toList ∅
    if byMetric.isEmpty then
      none
    else
      let logSum := F64.sum (byMetric.toList.map fun entry => F64.ln entry.2)
      let retention := F64.exp (logSum / F64.ofNat byMetric.size)
      if !F64.isFinite retention then
        none
      else
        some
          { retention := retention
            score := F64.min retention 1.0 * referenceAnchor
            cycles := cycles.length
            scoredCycle := cycles.getLast?.getD 0
            byMetric := byMetric }

end Sustained

end Darcbench
