import Darcbench.Protocol.Run
import Darcbench.Scoring.Sustained

/-!
# Aggregation of metrics into scores

Raw metrics are turned into ratios against the reference, and the ratios into
category, facet, composite and total scores.
-/

namespace Darcbench

variable {F : Type} [F64 F]

structure CategoryOutcome (F : Type) where
  key : CategoryKey
  label : String
  score : F
  weight : F
  metricCount : ℕ
  /-- Modules that contributed at least one scored metric, sorted. -/
  modules : List String

structure CompositeOutcome (F : Type) where
  key : CompositeKey
  label : String
  score : F
  /-- Fraction of the declared weight that is backed by data. -/
  weightCoverage : F

/-- The recomputable output of the scoring model for one run. -/
structure ScoreCard (F : Type) where
  scoringModel : String
  referenceProfile : String
  uncalibrated : Bool
  profile : Profile
  total : Option F
  totalIsStandard : Bool
  categories : List (CategoryOutcome F)
  facets : BTreeMap String F
  composites : List (CompositeOutcome F)
  stabilityScore : F
  stabilityIndex : F
  stabilityMultiplier : F
  /-- The total before the weak-link cap. -/
  uncappedTotal : Option F
  weakLinkApplied : Bool
  balanceIndex : Option F
  efficiencyScore : Option F
  medianCv : Option F
  instabilityFlags : ℕ
  missingRequiredCategories : List CategoryKey
  /-- Metrics without an anchor or without a usable value. -/
  unreferencedMetrics : List String
  sustained : Option (SustainedOutcome F)

/-- A configured, versioned scoring model. -/
structure ScoringModel (F : Type) where
  version : String
  reference : ReferenceProfile F
  /-- Worst-case penalty applied to the total of an unstable machine. -/
  stabilityPenaltySpan : F
  /-- Coefficient of variation at which the stability index reaches 0. -/
  cvCeiling : F
  weakLinkCapFactor : F

/-- Identifier of the scoring model implemented by this build. -/
def scoringModelVersion : String := "dbs/0.2.0-dev"

namespace ScoringModel

def current : ScoringModel F where
  version := scoringModelVersion
  reference := provisionalReference
  stabilityPenaltySpan := 0.10
  cvCeiling := 0.20
  weakLinkCapFactor := 4.0

/-- The superseded model that this build can still recompute. -/
def dbs010Dev : ScoringModel F where
  version := "dbs/0.1.0-dev"
  reference := referenceDbs010Dev
  stabilityPenaltySpan := 0.10
  cvCeiling := 0.20
  weakLinkCapFactor := 4.0

/-- The model a bundle declares, when this build still implements it. -/
def forVersion (version : String) : Option (ScoringModel F) :=
  if version = scoringModelVersion then
    some current
  else if version = "dbs/0.1.0-dev" then
    some dbs010Dev
  else
    none

end ScoringModel

/-- Turns a raw value into a dimensionless ratio against the reference. -/
def normalise (value reference : F) (direction : Direction) : Option F :=
  if !F64.isFinite value || !F64.isFinite reference ||
      decide (reference ≤ 0.0) then
    none
  else
    match direction with
    | .higherIsBetter =>
        let ratio := value / reference
        if F64.isFinite ratio ∧ 0.0 < ratio then some ratio else none
    | .lowerIsBetter =>
        if value ≤ 0.0 then
          none
        else
          let ratio := reference / value
          if F64.isFinite ratio ∧ 0.0 < ratio then some ratio else none

/-- The smallest finite score. -/
def weakest (scores : List F) : Option F :=
  (scores.filter F64.isFinite).foldl
    (fun acc v =>
      some (match acc with
        | some cur => F64.min cur v
        | none => v))
    none

/-- Caps the total at a multiple of the weakest measured category. -/
def applyWeakLinkCap (total : F) (categoryScores : List F) (factor : F) : F :=
  match weakest categoryScores with
  | some min => if 0.0 < factor then F64.min total (min * factor) else total
  | none => total

/-- Median of a list that the caller has not sorted. -/
def median (values : List F) : Option F :=
  if values.isEmpty then
    none
  else
    F64.medianOfSorted (F64.sortPartial values)

/-! ## What the walk over the modules collects -/

/-- The state of the walk over modules and metrics. -/
structure Tally (F : Type) where
  /-- `(ratio, weight)` pairs of each category. -/
  byCategory : BTreeMap CategoryKey (List (F × F))
  modulesByCategory : BTreeMap CategoryKey (Finset String)
  byFacet : BTreeMap Facet (List (F × F))
  unreferenced : List String
  cvs : List F
  instabilityFlags : ℕ

namespace Tally

def empty : Tally F where
  byCategory := ∅
  modulesByCategory := ∅
  byFacet := ∅
  unreferenced := []
  cvs := []
  instabilityFlags := 0

/-- Records that a metric does not count towards any score. -/
def recordUnreferenced (tally : Tally F) (moduleId metricKey : String) :
    Tally F :=
  { tally with
    unreferenced := tally.unreferenced ++ [scopedKey moduleId metricKey] }

/-- Records the variation of a referenced metric, if it has one. -/
def recordCv (tally : Tally F) (cv : Option F) : Tally F :=
  match cv with
  | some cv => { tally with cvs := tally.cvs ++ [cv] }
  | none => tally

/-- Records the ratio of a metric under its category and its facet. -/
def recordRatio (tally : Tally F) (moduleId : String)
    (reference : ReferencePoint F) (ratio : F) : Tally F :=
  { tally with
    byCategory := tally.byCategory.alter reference.category fun pairs =>
      some (pairs.getD [] ++ [(ratio, reference.weight)])
    modulesByCategory :=
      tally.modulesByCategory.alter reference.category fun ids =>
        some (insert moduleId (ids.getD ∅))
    byFacet :=
      match reference.facet with
      | some facet =>
          tally.byFacet.alter facet fun pairs =>
            some (pairs.getD [] ++ [(ratio, reference.weight)])
      | none => tally.byFacet }

/-- The body of the loop over the metrics of a module. -/
def recordMetric (model : ScoringModel F) (moduleId : String)
    (tally : Tally F) (metric : Metric F) : Tally F :=
  match model.reference.get moduleId metric.key with
  | none => tally.recordUnreferenced moduleId metric.key
  | some reference =>
      let tally := tally.recordCv metric.summary.cv
      match normalise metric.value reference.value reference.direction with
      | none => tally.recordUnreferenced moduleId metric.key
      | some ratio => tally.recordRatio moduleId reference ratio

/-- Whether a warning is counted as a sign of instability. -/
def countsAsInstability : WarningCode → Bool
  | .highVariance | .stealTimeObserved | .thermalThrottle | .frequencyDrop
  | .externalLoad => true
  | _ => false

/-- The body of the loop over the modules. -/
def recordModule (model : ScoringModel F) (scoredCycle : ℕ)
    (tally : Tally F) (module : ModuleResult F) : Tally F :=
  if !module.status.isScoreable then
    tally
  else if module.cycle ≠ scoredCycle then
    tally
  else
    let tally := module.metrics.foldl
      (recordMetric model module.module.id.asStr) tally
    { tally with
      instabilityFlags := tally.instabilityFlags +
        (module.warnings.filter fun w => countsAsInstability w.code).length }

end Tally

/-! ## The card -/

/-- The outcome of a category, unless no metric contributed to it. -/
def categoryOutcome (tally : Tally F) (key : CategoryKey) :
    Option (CategoryOutcome F) := do
  let pairs ← tally.byCategory[key]?
  if pairs.isEmpty then
    none
  else
    let gm ← weightedGeometricMean pairs
    some
      { key := key
        label := key.label
        score := gm * referenceAnchor
        weight := key.standardWeight
        metricCount := pairs.length
        modules :=
          ((tally.modulesByCategory[key]?).map
            fun ids => ids.sort (· ≤ ·)).getD [] }

/-- Adds the score of a facet to the facet scores, if it has one. -/
def insertFacet (tally : Tally F) (facets : BTreeMap String F)
    (facet : Facet) : BTreeMap String F :=
  match (tally.byFacet[facet]?).bind weightedGeometricMean with
  | some gm => facets.insert facet.key (gm * referenceAnchor)
  | none => facets

def stabilityIndexOf (cvCeiling : F) (medianCv : Option F) : F :=
  match medianCv with
  | some cv => F64.clamp (1.0 - cv / cvCeiling) 0.0 1.0
  | none => 0.5

/-- The scores of the categories on the card. -/
def presentScores (categories : List (CategoryOutcome F)) :
    BTreeMap CategoryKey F :=
  Std.ExtTreeMap.ofList (categories.map fun c => (c.key, c.score)) compare

/-- A composite, unless too few of its inputs were measured. -/
def compositeOutcome (present : BTreeMap CategoryKey F)
    (key : CompositeKey) : Option (CompositeOutcome F) :=
  let pairs := key.weights.filterMap fun (category, weight) =>
    (present[category]?).map fun score => (score / referenceAnchor, weight)
  let covered := F64.sum
    ((key.weights.filter fun entry => present.contains entry.1).map Prod.snd)
  if covered < 0.60 then
    none
  else
    (weightedGeometricMean pairs).map fun gm =>
      { key := key
        label := key.label
        score := gm * referenceAnchor
        weightCoverage := covered }

/-- Performance per logical CPU, from the two facet scores. -/
def efficiencyOf (facets : BTreeMap String F) : Option F := do
  let multi ← facets[Facet.multiCore.key]?
  let single ← facets[Facet.singleCore.key]?
  if 0.0 < single then
    some ((geometricMean [multi, single]).getD single)
  else
    none

def balanceIndexOf (categoryScores : List F) : Option F := do
  let min ← weakest categoryScores
  let gm ← geometricMean categoryScores
  some (if 0.0 < gm then min / gm else 0.0)

/-- Whether the cap moved the total by more than rounding. -/
def weakLinkAppliedOf (uncappedTotal total : Option F) : Bool :=
  match uncappedTotal, total with
  | some u, some t => decide (t < u - 1e-9)
  | _, _ => false

/-- Assembles the card from what the walk collected. -/
def ScoringModel.card (model : ScoringModel F) (profile : Profile)
    (sustained : Option (SustainedOutcome F)) (tally : Tally F) :
    ScoreCard F :=
  let categories := CategoryKey.all.filterMap (categoryOutcome tally)
  let facets := [Facet.singleCore, Facet.multiCore].foldl
    (insertFacet tally) ∅
  let medianCv := median tally.cvs
  let stabilityIndex := stabilityIndexOf model.cvCeiling medianCv
  let stabilityMultiplier :=
    (1.0 - model.stabilityPenaltySpan) +
      model.stabilityPenaltySpan * stabilityIndex
  let present := presentScores categories
  let missingRequired :=
    CategoryKey.requiredForStandardTotal.filter fun key =>
      !present.contains key
  let uncappedTotal :=
    (weightedGeometricMean
      (categories.map fun c => (c.score / referenceAnchor, c.weight))).map
        fun gm => gm * referenceAnchor * stabilityMultiplier
  let categoryScores := categories.map (·.score)
  let total := uncappedTotal.map fun t =>
    applyWeakLinkCap t categoryScores model.weakLinkCapFactor
  { scoringModel := model.version
    referenceProfile := model.reference.name
    uncalibrated := !model.reference.calibrated
    profile := profile
    total := total
    totalIsStandard := missingRequired.isEmpty && profile.isStandard
    categories := categories
    facets := facets
    composites := CompositeKey.all.filterMap (compositeOutcome present)
    stabilityScore := stabilityIndex * referenceAnchor
    stabilityIndex := stabilityIndex
    stabilityMultiplier := stabilityMultiplier
    uncappedTotal := uncappedTotal
    weakLinkApplied := weakLinkAppliedOf uncappedTotal total
    balanceIndex := balanceIndexOf categoryScores
    efficiencyScore := efficiencyOf facets
    medianCv := medianCv
    instabilityFlags := tally.instabilityFlags
    missingRequiredCategories := missingRequired
    unreferencedMetrics := tally.unreferenced
    sustained := sustained }

/-- What the walk over the modules collects. -/
def ScoringModel.tally (model : ScoringModel F)
    (modules : List (ModuleResult F)) : Tally F :=
  modules.foldl
    (Tally.recordModule model (Sustained.scoringCycle modules)) Tally.empty

/-- Scores a run. -/
def ScoringModel.scoreRun (model : ScoringModel F) (profile : Profile)
    (modules : List (ModuleResult F)) : ScoreCard F :=
  model.card profile (Sustained.analyse modules) (model.tally modules)

end Darcbench
