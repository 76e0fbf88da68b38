import Darcbench.Scoring.Model

/-!
# Comparison of a recomputed score card with a claimed one

The comparison stops at the first field that disagrees and names it.
-/

namespace Darcbench

variable {F : Type} [F64 F]

/-- Relative tolerance for numbers recomputed on another machine. -/
def tolerance : F := 1e-6

/-- Equality of optional numbers up to the tolerance. -/
def close (x y : Option F) : Bool :=
  match x, y with
  | none, none => true
  | some x, some y =>
      decide (F64.abs (x - y) ≤ tolerance * F64.max (F64.abs x) 1.0)
  | _, _ => false

def check (ok : Bool) (field : String) : Except String Unit :=
  if ok then .ok () else .error field

def checkCategory (a b : CategoryOutcome F) : Except String Unit := do
  check (a.key = b.key) "categories.key"
  check (close (some a.score) (some b.score)) "categories.score"
  check (close (some a.weight) (some b.weight)) "categories.weight"
  check (a.metricCount = b.metricCount) "categories.metric_count"
  check (a.modules = b.modules) "categories.modules"

def checkComposite (a b : CompositeOutcome F) : Except String Unit := do
  check (a.key = b.key) "composites.key"
  check (close (some a.score) (some b.score)) "composites.score"
  check (close (some a.weightCoverage) (some b.weightCoverage))
    "composites.coverage"

/-- Compares an entry of two maps of numbers. -/
def checkEntry (keyField valueField : String) (a b : String × F) :
    Except String Unit := do
  check (a.1 = b.1) keyField
  check (close (some a.2) (some b.2)) valueField

/-- Runs a comparison over two lists position by position. -/
def checkZip {α : Type} (compare : α → α → Except String Unit) (a b : List α) :
    Except String Unit :=
  (a.zip b).forM fun pair => compare pair.1 pair.2

def checkSustained (recomputed claimed : Option (SustainedOutcome F)) :
    Except String Unit :=
  match recomputed, claimed with
  | none, none => .ok ()
  | some recomputed, some claimed => do
      check (close (some recomputed.retention) (some claimed.retention))
        "sustained.retention"
      check (close (some recomputed.score) (some claimed.score))
        "sustained.score"
      check (recomputed.cycles = claimed.cycles) "sustained.cycles"
      check (recomputed.scoredCycle = claimed.scoredCycle)
        "sustained.scored_cycle"
      check (recomputed.byMetric.size = claimed.byMetric.size)
        "sustained.by_metric.len"
      checkZip
        (checkEntry "sustained.by_metric.key" "sustained.by_metric.value")
        recomputed.byMetric.toList claimed.byMetric.toList
  | _, _ => .error "sustained.presence"

/-- Compares a recomputed score card against the one in the bundle. -/
def scoresMatch (recomputed claimed : ScoreCard F) : Except String Unit := do
  check (recomputed.scoringModel = claimed.scoringModel) "scoring_model"
  check (recomputed.referenceProfile = claimed.referenceProfile)
    "reference_profile"
  check (recomputed.uncalibrated = claimed.uncalibrated) "uncalibrated"
  check (recomputed.profile = claimed.profile) "profile"
  check (close recomputed.total claimed.total) "total"
  check (recomputed.totalIsStandard = claimed.totalIsStandard)
    "total_is_standard"
  check (close recomputed.uncappedTotal claimed.uncappedTotal)
    "uncapped_total"
  check (recomputed.weakLinkApplied = claimed.weakLinkApplied)
    "weak_link_applied"
  check (close recomputed.balanceIndex claimed.balanceIndex) "balance_index"
  check (close (some recomputed.stabilityScore) (some claimed.stabilityScore))
    "stability_score"
  check (close (some recomputed.stabilityIndex) (some claimed.stabilityIndex))
    "stability_index"
  check
    (close (some recomputed.stabilityMultiplier)
      (some claimed.stabilityMultiplier))
    "stability_multiplier"
  check (close recomputed.efficiencyScore claimed.efficiencyScore)
    "efficiency_score"
  check (close recomputed.medianCv claimed.medianCv) "median_cv"
  check (recomputed.instabilityFlags = claimed.instabilityFlags)
    "instability_flags"
  check (recomputed.categories.length = claimed.categories.length)
    "categories.len"
  checkZip checkCategory recomputed.categories claimed.categories
  check (recomputed.facets.size = claimed.facets.size) "facets.len"
  checkZip (checkEntry "facets.key" "facets.score")
    recomputed.facets.toList claimed.facets.toList
  check (recomputed.composites.length = claimed.composites.length)
    "composites.len"
  checkZip checkComposite recomputed.composites claimed.composites
  checkSustained recomputed.sustained claimed.sustained
  check
    (recomputed.missingRequiredCategories = claimed.missingRequiredCategories)
    "missing_required_categories"
  check (recomputed.unreferencedMetrics = claimed.unreferencedMetrics)
    "unreferenced_metrics"

end Darcbench
