import Darcbench.Report.ScoresAgree
import Darcbench.Report.StandIns
import Darcbench.Report.Validate
import Darcbench.Scoring.FiniteCard

/-!
# The agent and the server on an honest bundle

The agent judges a bundle by the scores it claims, and the server by the scores
it computes again.  Over exact arithmetic a card of numbers passes the
comparison with itself, so on an honest bundle both come to the same findings.
-/

namespace Darcbench

/-! ## A card agrees with itself -/

theorem withinTolerance_self {a : Exact} (h : a.IsFin) :
    WithinTolerance a a := by
  obtain ⟨x, rfl⟩ := h
  have htolerance : (0 : ℝ) < OfScientific.ofScientific 1 true 6 :=
    ofScientific_pos true 6 (by norm_num)
  have hmax : (0 : ℝ) ≤ max |x| 1 := zero_le_one.trans (le_max_right _ _)
  rw [WithinTolerance, Exact.fin_sub_fin, Exact.abs_fin, Exact.abs_fin,
    Exact.one_eq, Exact.max_fin, Exact.ofScientific_eq, Exact.fin_mul_fin,
    Exact.fin_le_fin, sub_self, abs_zero]
  exact mul_nonneg htolerance.le hmax

theorem rel_withinTolerance_self {a : Option Exact}
    (h : ∀ x, a = some x → x.IsFin) :
    Option.Rel WithinTolerance a a := by
  cases a with
  | none => exact Option.Rel.none
  | some x => exact Option.Rel.some (withinTolerance_self (h x rfl))

theorem mapsAgree_self {m : BTreeMap String Exact}
    (h : ∀ (key : String) (value : Exact), m[key]? = some value → value.IsFin) :
    MapsAgree m m :=
  fun key => rel_withinTolerance_self (h key)

theorem SustainedOutcome.agrees_self {outcome : SustainedOutcome Exact}
    (h : outcome.AllNumbers Exact.IsFin) :
    outcome.Agrees outcome where
  retention := withinTolerance_self h.retention
  score := withinTolerance_self h.score
  cycles := rfl
  scoredCycle := rfl
  byMetric := mapsAgree_self h.byMetric

/-- A card of numbers passes the comparison with itself. -/
theorem ScoreCard.agreesButLabels_self {card : ScoreCard Exact}
    (h : card.AllNumbers Exact.IsFin) :
    card.AgreesButLabels card where
  scoringModel := rfl
  referenceProfile := rfl
  uncalibrated := rfl
  profile := rfl
  total := rel_withinTolerance_self h.total
  totalIsStandard := rfl
  categories := List.forall₂_same.mpr fun c hc =>
    { key := rfl
      score := withinTolerance_self (h.categories c hc).1
      weight := withinTolerance_self (h.categories c hc).2
      metricCount := rfl
      modules := rfl }
  facets := mapsAgree_self h.facets
  composites := List.forall₂_same.mpr fun c hc =>
    { key := rfl
      score := withinTolerance_self (h.composites c hc).1
      weightCoverage := withinTolerance_self (h.composites c hc).2 }
  stabilityScore := withinTolerance_self h.stabilityScore
  stabilityIndex := withinTolerance_self h.stabilityIndex
  stabilityMultiplier := withinTolerance_self h.stabilityMultiplier
  uncappedTotal := rel_withinTolerance_self h.uncappedTotal
  weakLinkApplied := rfl
  balanceIndex := rel_withinTolerance_self h.balanceIndex
  efficiencyScore := rel_withinTolerance_self h.efficiencyScore
  medianCv := rel_withinTolerance_self h.medianCv
  instabilityFlags := rfl
  missingRequiredCategories := rfl
  unreferencedMetrics := rfl
  sustained := by
    cases hsustained : card.sustained with
    | none => exact Option.Rel.none
    | some outcome =>
        exact Option.Rel.some
          (SustainedOutcome.agrees_self (h.sustained outcome hsustained))

/-! ## Honest bundles -/

/-- The scores of the bundle are those that a known model computes. -/
structure Bundle.IsHonest {F : Type} [F64 F] (bundle : Bundle F)
    (model : ScoringModel F) : Prop where
  known : ScoringModel.forVersion bundle.scores.scoringModel = some model
  scores_eq : bundle.scores =
    model.scoreRun bundle.run.profile bundle.modules

/-- What the server says where the agent says this. -/
def ResultState.onServer : ResultState → ResultState
  | .selfReported | .localState => .validated
  | state => state

theorem recompute_of_isHonest {bundle : Bundle Exact}
    {model : ScoringModel Exact} (h : bundle.IsHonest model)
    (hcvs : ∀ cv ∈ model.referencedCvs bundle.modules, cv.IsFin) :
    recompute bundle =
      { findings := .none
        matched := some true
        mismatchField := none
        scores := some bundle.scores } := by
  have hmatch : scoresMatch bundle.scores bundle.scores = .ok () := by
    rw [scoresMatch_eq_ok_iff]
    refine ScoreCard.agreesButLabels_self ?_
    rw [h.scores_eq]
    exact allNumbers_scoreRun (isReal_of_forVersion h.known) _ hcvs
  rw [recompute, h.known]
  simp only [← h.scores_eq, hmatch]

section

variable [Chrono] [JsonText Exact] [Crypto]

theorem serverChecks_of_isHonest {bundle : Bundle Exact}
    {model : ScoringModel Exact} (h : bundle.IsHonest model)
    (hcvs : ∀ cv ∈ model.referencedCvs bundle.modules, cv.IsFin)
    (hsignature : bundle.verifySignature = .ok ()) :
    serverChecks bundle true =
      { findings := .none
        matched := some true
        mismatchField := none
        scores := some bundle.scores } := by
  rw [serverChecks, if_pos rfl, recompute_of_isHonest h hcvs,
    signatureFindings, hsignature]
  rfl

end

/-! ## A run of no modules -/

namespace StandIns

noncomputable section

/-- Seventeen decimal places. -/
def decimal : Exact → List Char
  | .fin x => (toString ⌊x * 10 ^ 17⌋ ++ "e-17").toList
  | _ => []

scoped instance : JsonText Exact where
  toVec := toBytes decimal
  toVecPretty := toBytes decimal

/-- The signed bundle of a quick run that selected nothing. -/
def honestBundle : Bundle Exact :=
  (bundle [] [] (ScoringModel.current.scoreRun .quick [])).sign zeroKey

theorem isHonest_honestBundle : honestBundle.IsHonest ScoringModel.current where
  known := rfl
  scores_eq := rfl

end

end StandIns

end Darcbench
