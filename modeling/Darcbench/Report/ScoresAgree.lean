import Darcbench.Report.ScoresMatch

/-!
# What the score comparison establishes

Agreement of two score cards is stated field by field, and the comparison is
shown to establish exactly the agreement of every field but the labels.  A
claimed card may therefore relabel a category or a composite unnoticed.
-/

namespace Darcbench

variable {F : Type} [F64 F]

/-! ## Agreement -/

/-- Agreement of two numbers up to the relative tolerance. -/
def WithinTolerance (x y : F) : Prop :=
  F64.abs (x - y) ≤ 1e-6 * F64.max (F64.abs x) 1.0

/-- Agreement of two categories on everything but the label. -/
structure CategoryOutcome.AgreesButLabel (a b : CategoryOutcome F) : Prop where
  key : a.key = b.key
  score : WithinTolerance a.score b.score
  weight : WithinTolerance a.weight b.weight
  metricCount : a.metricCount = b.metricCount
  modules : a.modules = b.modules

/-- Agreement of two composites on everything but the label. -/
structure CompositeOutcome.AgreesButLabel
    (a b : CompositeOutcome F) : Prop where
  key : a.key = b.key
  score : WithinTolerance a.score b.score
  weightCoverage : WithinTolerance a.weightCoverage b.weightCoverage

/-- Agreement of two maps of numbers: the same keys, and close values. -/
def MapsAgree (m l : BTreeMap String F) : Prop :=
  ∀ key : String, Option.Rel WithinTolerance m[key]? l[key]?

structure SustainedOutcome.Agrees (a b : SustainedOutcome F) : Prop where
  retention : WithinTolerance a.retention b.retention
  score : WithinTolerance a.score b.score
  cycles : a.cycles = b.cycles
  scoredCycle : a.scoredCycle = b.scoredCycle
  byMetric : MapsAgree a.byMetric b.byMetric

/-- Agreement of two cards on every field, where `C` and `D` say what the
agreement of two categories and of two composites is. -/
structure ScoreCard.AgreesUpTo
    (C : CategoryOutcome F → CategoryOutcome F → Prop)
    (D : CompositeOutcome F → CompositeOutcome F → Prop)
    (a b : ScoreCard F) : Prop where
  scoringModel : a.scoringModel = b.scoringModel
  referenceProfile : a.referenceProfile = b.referenceProfile
  uncalibrated : a.uncalibrated = b.uncalibrated
  profile : a.profile = b.profile
  total : Option.Rel WithinTolerance a.total b.total
  totalIsStandard : a.totalIsStandard = b.totalIsStandard
  categories : List.Forall₂ C a.categories b.categories
  facets : MapsAgree a.facets b.facets
  composites : List.Forall₂ D a.composites b.composites
  stabilityScore : WithinTolerance a.stabilityScore b.stabilityScore
  stabilityIndex : WithinTolerance a.stabilityIndex b.stabilityIndex
  stabilityMultiplier :
    WithinTolerance a.stabilityMultiplier b.stabilityMultiplier
  uncappedTotal : Option.Rel WithinTolerance a.uncappedTotal b.uncappedTotal
  weakLinkApplied : a.weakLinkApplied = b.weakLinkApplied
  balanceIndex : Option.Rel WithinTolerance a.balanceIndex b.balanceIndex
  efficiencyScore :
    Option.Rel WithinTolerance a.efficiencyScore b.efficiencyScore
  medianCv : Option.Rel WithinTolerance a.medianCv b.medianCv
  instabilityFlags : a.instabilityFlags = b.instabilityFlags
  missingRequiredCategories :
    a.missingRequiredCategories = b.missingRequiredCategories
  unreferencedMetrics : a.unreferencedMetrics = b.unreferencedMetrics
  sustained : Option.Rel SustainedOutcome.Agrees a.sustained b.sustained

/-- Agreement of two cards on every field but the labels. -/
def ScoreCard.AgreesButLabels (a b : ScoreCard F) : Prop :=
  ScoreCard.AgreesUpTo CategoryOutcome.AgreesButLabel
    CompositeOutcome.AgreesButLabel a b

/-- Agreement of two cards on every field. -/
def ScoreCard.Agrees (a b : ScoreCard F) : Prop :=
  ScoreCard.AgreesUpTo
    (fun c d => c.AgreesButLabel d ∧ c.label = d.label)
    (fun c d => c.AgreesButLabel d ∧ c.label = d.label) a b

/-- The categories and the composites carry the same labels, position by
position. -/
def ScoreCard.SameLabels (a b : ScoreCard F) : Prop :=
  a.categories.map (·.label) = b.categories.map (·.label) ∧
    a.composites.map (·.label) = b.composites.map (·.label)

theorem forall₂_and_iff_map_eq
    {α β : Type} {R : α → α → Prop} (f : α → β) {as bs : List α} :
    List.Forall₂ (fun a b => R a b ∧ f a = f b) as bs ↔
      List.Forall₂ R as bs ∧ as.map f = bs.map f := by
  induction as generalizing bs with
  | nil => cases bs <;> simp
  | cons a as ih =>
      cases bs with
      | nil => simp
      | cons b bs =>
          rw [List.forall₂_cons, List.forall₂_cons, ih, List.map_cons,
            List.map_cons, List.cons.injEq]
          tauto

theorem ScoreCard.agrees_iff (a b : ScoreCard F) :
    a.Agrees b ↔ a.AgreesButLabels b ∧ a.SameLabels b := by
  constructor
  · intro h
    obtain ⟨hcategories, hlabels⟩ :=
      (forall₂_and_iff_map_eq CategoryOutcome.label).mp h.categories
    obtain ⟨hcomposites, hlabels'⟩ :=
      (forall₂_and_iff_map_eq CompositeOutcome.label).mp h.composites
    exact ⟨{ h with categories := hcategories, composites := hcomposites },
      hlabels, hlabels'⟩
  · rintro ⟨h, hlabels, hlabels'⟩
    exact
      { h with
        categories := (forall₂_and_iff_map_eq CategoryOutcome.label).mpr
          ⟨h.categories, hlabels⟩
        composites := (forall₂_and_iff_map_eq CompositeOutcome.label).mpr
          ⟨h.composites, hlabels'⟩ }

/-! ## The checks -/

theorem check_eq_ok_iff (ok : Bool) (field : String) :
    check ok field = .ok () ↔ ok = true := by
  cases ok <;> simp [check]

theorem bind_eq_ok_iff (a b : Except String Unit) :
    (a >>= fun _ => b) = .ok () ↔ a = .ok () ∧ b = .ok () := by
  cases a with
  | ok u =>
      cases u
      exact (and_iff_right rfl).symm
  | error e => simp [bind, Except.bind]

theorem close_eq_true_iff (x y : Option F) :
    close x y = true ↔ Option.Rel WithinTolerance x y := by
  cases x with
  | none =>
      cases y with
      | none => exact iff_of_true rfl Option.Rel.none
      | some y => exact iff_of_false (by simp [close]) (by rintro ⟨⟩)
  | some x =>
      cases y with
      | none => exact iff_of_false (by simp [close]) (by rintro ⟨⟩)
      | some y =>
          rw [close, decide_eq_true_eq, Option.rel_some_some]
          rfl

/-- Over lists of the same length the loop compares every position. -/
theorem checkZip_eq_ok_iff
    {α : Type} {compare : α → α → Except String Unit} {as bs : List α}
    (h : as.length = bs.length) :
    checkZip compare as bs = .ok () ↔
      List.Forall₂ (fun a b => compare a b = .ok ()) as bs := by
  induction as generalizing bs with
  | nil =>
      cases bs with
      | nil => simp [checkZip, pure, Except.pure]
      | cons b bs => simp at h
  | cons a as ih =>
      cases bs with
      | nil => simp at h
      | cons b bs =>
          have hlength : as.length = bs.length := by simpa using h
          change (compare a b >>= fun _ => checkZip compare as bs) = .ok () ↔ _
          rw [bind_eq_ok_iff, List.forall₂_cons, ih hlength]

/-- A length check followed by the loop compares two lists completely. -/
theorem check_length_and_checkZip_iff
    {α : Type} {compare : α → α → Except String Unit} {as bs : List α} :
    as.length = bs.length ∧ checkZip compare as bs = .ok () ↔
      List.Forall₂ (fun a b => compare a b = .ok ()) as bs := by
  constructor
  · rintro ⟨h, hzip⟩
    exact (checkZip_eq_ok_iff h).mp hzip
  · intro h
    exact ⟨h.length_eq, (checkZip_eq_ok_iff h.length_eq).mpr h⟩

theorem checkCategory_eq_ok_iff (a b : CategoryOutcome F) :
    checkCategory a b = .ok () ↔ a.AgreesButLabel b := by
  simp only [checkCategory, bind_eq_ok_iff, check_eq_ok_iff,
    decide_eq_true_eq, close_eq_true_iff, Option.rel_some_some]
  constructor
  · rintro ⟨hkey, hscore, hweight, hcount, hmodules⟩
    exact ⟨hkey, hscore, hweight, hcount, hmodules⟩
  · rintro ⟨hkey, hscore, hweight, hcount, hmodules⟩
    exact ⟨hkey, hscore, hweight, hcount, hmodules⟩

theorem checkComposite_eq_ok_iff (a b : CompositeOutcome F) :
    checkComposite a b = .ok () ↔ a.AgreesButLabel b := by
  simp only [checkComposite, bind_eq_ok_iff, check_eq_ok_iff,
    decide_eq_true_eq, close_eq_true_iff, Option.rel_some_some]
  constructor
  · rintro ⟨hkey, hscore, hcoverage⟩
    exact ⟨hkey, hscore, hcoverage⟩
  · rintro ⟨hkey, hscore, hcoverage⟩
    exact ⟨hkey, hscore, hcoverage⟩

/-- The size check and the loop over the entries compare two maps. -/
theorem check_size_and_checkZip_iff
    (keyField valueField : String) (m l : BTreeMap String F) :
    m.size = l.size ∧
        checkZip (checkEntry keyField valueField) m.toList l.toList =
          .ok () ↔
      MapsAgree m l := by
  rw [← Std.ExtTreeMap.length_toList, ← Std.ExtTreeMap.length_toList,
    check_length_and_checkZip_iff, MapsAgree, ← BTreeMap.forall₂_toList_iff]
  simp only [checkEntry, bind_eq_ok_iff, check_eq_ok_iff, decide_eq_true_eq,
    close_eq_true_iff, Option.rel_some_some]

theorem checkSustained_eq_ok_iff (a b : Option (SustainedOutcome F)) :
    checkSustained a b = .ok () ↔ Option.Rel SustainedOutcome.Agrees a b := by
  cases a with
  | none =>
      cases b with
      | none => exact iff_of_true rfl Option.Rel.none
      | some b => exact iff_of_false (by simp [checkSustained]) (by rintro ⟨⟩)
  | some a =>
      cases b with
      | none => exact iff_of_false (by simp [checkSustained]) (by rintro ⟨⟩)
      | some b =>
          simp only [checkSustained, bind_eq_ok_iff, check_eq_ok_iff,
            decide_eq_true_eq, close_eq_true_iff, Option.rel_some_some,
            check_size_and_checkZip_iff]
          constructor
          · rintro ⟨hretention, hscore, hcycles, hscored, hmetrics⟩
            exact ⟨hretention, hscore, hcycles, hscored, hmetrics⟩
          · intro h
            exact ⟨h.retention, h.score, h.cycles, h.scoredCycle, h.byMetric⟩

/-- The comparison succeeds exactly if all fields but the labels agree. -/
theorem scoresMatch_eq_ok_iff (a b : ScoreCard F) :
    scoresMatch a b = .ok () ↔ a.AgreesButLabels b := by
  have hcategories :
      a.categories.length = b.categories.length ∧
          checkZip checkCategory a.categories b.categories = .ok () ↔
        List.Forall₂ CategoryOutcome.AgreesButLabel
          a.categories b.categories := by
    rw [check_length_and_checkZip_iff]
    simp only [checkCategory_eq_ok_iff]
  have hcomposites :
      a.composites.length = b.composites.length ∧
          checkZip checkComposite a.composites b.composites = .ok () ↔
        List.Forall₂ CompositeOutcome.AgreesButLabel
          a.composites b.composites := by
    rw [check_length_and_checkZip_iff]
    simp only [checkComposite_eq_ok_iff]
  simp only [scoresMatch, bind_eq_ok_iff, check_eq_ok_iff, decide_eq_true_eq,
    close_eq_true_iff, Option.rel_some_some, checkSustained_eq_ok_iff]
  constructor
  · rintro ⟨hmodel, hreference, huncalibrated, hprofile, htotal, hstandard,
      huncapped, hweak, hbalance, hscore, hindex, hmultiplier, hefficiency,
      hmedian, hflags, hlength, hzip, hsize, hentries, hlength', hzip',
      hsustained, hmissing, hunreferenced⟩
    exact
      { scoringModel := hmodel
        referenceProfile := hreference
        uncalibrated := huncalibrated
        profile := hprofile
        total := htotal
        totalIsStandard := hstandard
        categories := hcategories.mp ⟨hlength, hzip⟩
        facets := (check_size_and_checkZip_iff _ _ _ _).mp ⟨hsize, hentries⟩
        composites := hcomposites.mp ⟨hlength', hzip'⟩
        stabilityScore := hscore
        stabilityIndex := hindex
        stabilityMultiplier := hmultiplier
        uncappedTotal := huncapped
        weakLinkApplied := hweak
        balanceIndex := hbalance
        efficiencyScore := hefficiency
        medianCv := hmedian
        instabilityFlags := hflags
        missingRequiredCategories := hmissing
        unreferencedMetrics := hunreferenced
        sustained := hsustained }
  · intro h
    obtain ⟨hlength, hzip⟩ := hcategories.mpr h.categories
    obtain ⟨hsize, hentries⟩ :=
      (check_size_and_checkZip_iff "facets.key" "facets.score" _ _).mpr
        h.facets
    obtain ⟨hlength', hzip'⟩ := hcomposites.mpr h.composites
    exact ⟨h.scoringModel, h.referenceProfile, h.uncalibrated, h.profile,
      h.total, h.totalIsStandard, h.uncappedTotal, h.weakLinkApplied,
      h.balanceIndex, h.stabilityScore, h.stabilityIndex,
      h.stabilityMultiplier, h.efficiencyScore, h.medianCv,
      h.instabilityFlags, hlength, hzip, hsize, hentries, hlength', hzip',
      h.sustained, h.missingRequiredCategories, h.unreferencedMetrics⟩

/-- The comparison decides the agreement of two cards exactly if their labels
are the same or another field tells them apart. -/
theorem scoresMatch_decides_agrees_iff (a b : ScoreCard F) :
    (scoresMatch a b = .ok () ↔ a.Agrees b) ↔
      a.SameLabels b ∨ ¬ a.AgreesButLabels b := by
  rw [scoresMatch_eq_ok_iff, ScoreCard.agrees_iff]
  tauto

/-- A card with one category under the given label. -/
def relabelledCard (label : String) : ScoreCard Float where
  scoringModel := scoringModelVersion
  referenceProfile := "DARC-REF-1"
  uncalibrated := true
  profile := .standard
  total := none
  totalIsStandard := false
  categories :=
    [{ key := .storage
       label := label
       score := 20.0
       weight := 0.20
       metricCount := 1
       modules := ["storage.mixed"] }]
  facets := ∅
  composites := []
  stabilityScore := 1000.0
  stabilityIndex := 1.0
  stabilityMultiplier := 1.0
  uncappedTotal := none
  weakLinkApplied := false
  balanceIndex := none
  efficiencyScore := none
  medianCv := none
  instabilityFlags := 0
  missingRequiredCategories := [.compute, .memory, .network, .web]
  unreferencedMetrics := []
  sustained := none

/-- A weak storage score presented as a network score passes the
comparison. -/
theorem scoresMatch_relabelledCard :
    scoresMatch (relabelledCard "Storage Score")
        (relabelledCard "Network Score") = .ok () ∧
      ¬ (relabelledCard "Storage Score").Agrees
        (relabelledCard "Network Score") := by
  refine ⟨rfl, fun h => ?_⟩
  have hlabels := ((ScoreCard.agrees_iff _ _).mp h).2.1
  exact absurd hlabels (by decide)

end Darcbench
