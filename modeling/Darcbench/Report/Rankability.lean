import Darcbench.Report.Validate

/-!
# What makes a run rankable

A run is rankable exactly if no section of the ruleset objects.  A section
objects through one of two channels, the fatal flag or a reason that downgrades
the run; the lemmas of this module show for each section that everything it
reports goes through one of them, whatever the module results contain.
-/

namespace Darcbench

variable {F : Type} [F64 F]

namespace Findings

/-- The findings keep a run from being rankable. -/
def Objects (found : Findings) : Prop :=
  found.fatal = true ∨ ∃ reason ∈ found.reasons, isPartialReason reason = true

theorem not_objects_none : ¬ none.Objects := by
  rintro (h | ⟨reason, hmem, _⟩)
  · exact absurd h (by decide)
  · exact absurd hmem (by simp [none])

theorem objects_invalidate (reason : VerdictReason) :
    (invalidate reason).Objects :=
  Or.inl rfl

theorem objects_downgrade_iff (reason : VerdictReason) :
    (downgrade reason).Objects ↔ isPartialReason reason = true := by
  simp [Objects, downgrade]

theorem objects_append_iff (a b : Findings) :
    (a ++ b).Objects ↔ a.Objects ∨ b.Objects := by
  change (append a b).Objects ↔ _
  simp only [Objects, append, Bool.or_eq_true, List.mem_append]
  constructor
  · rintro ((h | h) | ⟨reason, h | h, hpartial⟩)
    · exact Or.inl (Or.inl h)
    · exact Or.inr (Or.inl h)
    · exact Or.inl (Or.inr ⟨reason, h, hpartial⟩)
    · exact Or.inr (Or.inr ⟨reason, h, hpartial⟩)
  · rintro ((h | ⟨reason, h, hpartial⟩) | (h | ⟨reason, h, hpartial⟩))
    · exact Or.inl (Or.inl h)
    · exact Or.inr ⟨reason, Or.inl h, hpartial⟩
    · exact Or.inl (Or.inr h)
    · exact Or.inr ⟨reason, Or.inr h, hpartial⟩

theorem reasons_append (a b : Findings) :
    (a ++ b).reasons = a.reasons ++ b.reasons :=
  rfl

/-- The reasons of a loop are those of its iterations, in order. -/
theorem reasons_ofList {α : Type} (judge : α → Findings) (items : List α) :
    (ofList judge items).reasons =
      items.flatMap fun item => (judge item).reasons := by
  have hfold : ∀ (found : Findings) (rest : List α),
      (rest.foldl (fun found item => found ++ judge item) found).reasons =
        found.reasons ++ rest.flatMap fun item => (judge item).reasons := by
    intro found rest
    induction rest generalizing found with
    | nil => simp
    | cons item rest ih =>
        rw [List.foldl_cons, ih, reasons_append, List.flatMap_cons,
          List.append_assoc]
  exact (hfold none items).trans (List.nil_append _)

theorem objects_ofList_iff {α : Type} (judge : α → Findings)
    (items : List α) :
    (ofList judge items).Objects ↔
      ∃ item ∈ items, (judge item).Objects := by
  have hfold : ∀ (found : Findings) (rest : List α),
      (rest.foldl (fun found item => found ++ judge item) found).Objects ↔
        found.Objects ∨ ∃ item ∈ rest, (judge item).Objects := by
    intro found rest
    induction rest generalizing found with
    | nil => simp
    | cons item rest ih =>
        rw [List.foldl_cons, ih, objects_append_iff, or_assoc,
          List.exists_mem_cons_iff]
  exact (hfold none items).trans (or_iff_right not_objects_none)

/-- Nothing is reported without an objection. -/
def Effective (found : Findings) : Prop :=
  ¬ found.Objects → found.reasons = []

theorem effective_none : none.Effective := fun _ => rfl

theorem effective_of_objects {found : Findings} (h : found.Objects) :
    found.Effective :=
  fun hnot => absurd h hnot

theorem effective_append {a b : Findings}
    (ha : a.Effective) (hb : b.Effective) :
    (a ++ b).Effective := by
  intro hnot
  rw [objects_append_iff, not_or] at hnot
  rw [reasons_append, ha hnot.1, hb hnot.2, List.append_nil]

theorem effective_ofList {α : Type} {judge : α → Findings}
    (h : ∀ item, (judge item).Effective) (items : List α) :
    (ofList judge items).Effective := by
  intro hnot
  rw [objects_ofList_iff, not_exists] at hnot
  rw [reasons_ofList, List.flatMap_eq_nil_iff]
  intro item hmem
  exact h item fun hobjects => hnot item ⟨hmem, hobjects⟩

theorem effective_ite {p : Prop} [Decidable p] {found other : Findings}
    (h : found.Effective) (hother : other.Effective) :
    (if p then found else other).Effective := by
  split
  · exact h
  · exact hother

/-- A section that objects exactly in one of its two outcomes. -/
theorem objects_ite_iff {p : Prop} [Decidable p] {found : Findings}
    (h : found.Objects) :
    (if p then found else none).Objects ↔ p := by
  split
  · next hp => exact iff_of_true h hp
  · next hp => exact iff_of_false not_objects_none hp

end Findings

/-! ## The sections -/

theorem objects_runCompletionFindings_iff (run : RunRecord) :
    (runCompletionFindings run).Objects ↔ run.state ≠ .completed := by
  rw [runCompletionFindings]
  split
  · next h => exact iff_of_false Findings.not_objects_none (not_not.mpr h)
  · next h => exact iff_of_true (Findings.objects_invalidate _) h

theorem objects_schemaFindings_iff (metadata : BundleMeta) :
    (schemaFindings metadata).Objects ↔
      metadata.schema ≠ bundleSchemaVersion :=
  Findings.objects_ite_iff (Findings.objects_invalidate _)

theorem objects_buildProfileFindings_iff (metadata : BundleMeta) :
    (buildProfileFindings metadata).Objects ↔
      metadata.buildProfile ≠ "release" :=
  Findings.objects_ite_iff ((Findings.objects_downgrade_iff _).mpr rfl)

/-- Whatever the warnings of a degraded module are, the reason they are turned
into downgrades the run. -/
theorem isPartialReason_degradationReasonLoop
    (id : ModuleId) (warnings : List Warning) (declared : Option Warning) :
    isPartialReason (degradationReasonLoop id warnings declared) = true := by
  induction warnings generalizing declared with
  | nil => cases declared <;> rfl
  | cons warning rest ih =>
      rw [degradationReasonLoop]
      split
      · rfl
      · rfl
      · split
        · exact ih _
        · exact ih _

theorem isPartialReason_degradationReason (module : ModuleResult F) :
    isPartialReason (degradationReason module) = true :=
  isPartialReason_degradationReasonLoop _ _ _

theorem objects_statusFindings_iff (module : ModuleResult F) :
    (statusFindings module).Objects ↔ module.status ≠ .completed := by
  rw [statusFindings]
  cases hstatus : module.status with
  | completed =>
      exact iff_of_false Findings.not_objects_none (not_not.mpr rfl)
  | degraded =>
      exact iff_of_true
        ((Findings.objects_downgrade_iff _).mpr
          (isPartialReason_degradationReason module))
        (by decide)
  | failed =>
      exact iff_of_true ((Findings.objects_downgrade_iff _).mpr rfl)
        (by decide)
  | cancelled => exact iff_of_true (Findings.objects_invalidate _) (by decide)
  | skipped =>
      exact iff_of_true ((Findings.objects_downgrade_iff _).mpr rfl)
        (by decide)

theorem objects_varianceFindings_iff (module : ModuleResult F) :
    (varianceFindings module).Objects ↔
      ∃ metric ∈ module.metrics, isTooNoisy metric = true := by
  rw [varianceFindings, Findings.objects_ite_iff
    ((Findings.objects_downgrade_iff _).mpr rfl), List.any_eq_true]

theorem objects_moduleFindings_iff (module : ModuleResult F) :
    (moduleFindings module).Objects ↔
      module.status ≠ .completed ∨
        ∃ metric ∈ module.metrics, isTooNoisy metric = true := by
  rw [moduleFindings, Findings.objects_append_iff, objects_statusFindings_iff,
    objects_varianceFindings_iff]

theorem objects_metadataFindings_iff (entry : String × Bool) :
    (metadataFindings entry).Objects ↔ entry.2 = false := by
  rw [metadataFindings]
  cases entry.2 with
  | true => exact iff_of_false Findings.not_objects_none (by decide)
  | false => exact iff_of_true ((Findings.objects_downgrade_iff _).mpr rfl) rfl

theorem objects_clockFindings_iff (run : RunRecord) :
    (clockFindings run).Objects ↔ run.finishedAt < run.startedAt :=
  Findings.objects_ite_iff (Findings.objects_invalidate _)

/-- The reason for a custom profile downgrades nothing by itself: the profile
has a precedence of its own. -/
theorem not_objects_profileFindings (run : RunRecord) :
    ¬ (profileFindings run).Objects := by
  rw [profileFindings]
  split
  · exact Findings.not_objects_none
  · rw [Findings.objects_downgrade_iff]
    decide

theorem objects_missingCategoryFindings (category : CategoryKey) :
    (missingCategoryFindings category).Objects := by
  have hvalid : ModuleId.check (placeholderModuleFor category) = .ok () := by
    cases category <;> decide
  rw [missingCategoryFindings, ModuleId.fromStr]
  split
  · exact (Findings.objects_downgrade_iff _).mpr rfl
  · next e he =>
      split at he
      · exact absurd he (by simp)
      · next herror => exact absurd (hvalid.symm.trans herror) (by simp)

/-! ## Every report is an objection -/

theorem effective_downgrade {reason : VerdictReason}
    (h : isPartialReason reason = true) :
    (Findings.downgrade reason).Effective :=
  Findings.effective_of_objects ((Findings.objects_downgrade_iff _).mpr h)

theorem effective_invalidate (reason : VerdictReason) :
    (Findings.invalidate reason).Effective :=
  Findings.effective_of_objects (Findings.objects_invalidate reason)

theorem effective_runCompletionFindings (run : RunRecord) :
    (runCompletionFindings run).Effective := by
  rw [runCompletionFindings]
  split
  · exact Findings.effective_none
  · exact effective_invalidate _

theorem effective_moduleFindings (module : ModuleResult F) :
    (moduleFindings module).Effective := by
  apply Findings.effective_append
  · rw [statusFindings]
    split
    · exact Findings.effective_none
    · exact effective_downgrade (isPartialReason_degradationReason module)
    · exact effective_downgrade rfl
    · exact effective_invalidate _
    · exact effective_downgrade rfl
  · exact Findings.effective_ite (effective_downgrade rfl)
      Findings.effective_none

theorem effective_metadataFindings (entry : String × Bool) :
    (metadataFindings entry).Effective :=
  Findings.effective_ite Findings.effective_none (effective_downgrade rfl)

theorem effective_recompute (bundle : Bundle F) :
    (recompute bundle).findings.Effective := by
  rw [recompute]
  split
  · dsimp only
    split
    · exact Findings.effective_none
    · exact effective_invalidate _
  · exact effective_invalidate _

/-! ## Recomputation and signature -/

/-- The scores of a bundle are those of a model this build knows. -/
def RecomputationMatches (bundle : Bundle F) : Prop :=
  ∃ model, ScoringModel.forVersion bundle.scores.scoringModel = some model ∧
    scoresMatch (model.scoreRun bundle.run.profile bundle.modules)
      bundle.scores = .ok ()

theorem objects_recompute_iff (bundle : Bundle F) :
    (recompute bundle).findings.Objects ↔ ¬ RecomputationMatches bundle := by
  rw [recompute]
  split
  · next model hmodel =>
      dsimp only
      split
      · next hmatch =>
          exact iff_of_false Findings.not_objects_none
            (not_not.mpr ⟨model, hmodel, hmatch⟩)
      · next field herror =>
          refine iff_of_true (Findings.objects_invalidate _) ?_
          rintro ⟨model', hmodel', hmatch⟩
          obtain rfl : model = model' :=
            Option.some.inj (hmodel.symm.trans hmodel')
          exact absurd (hmatch.symm.trans herror) (by simp)
  · next hmodel =>
      refine iff_of_true (Findings.objects_invalidate _) ?_
      rintro ⟨model, hmodel', _⟩
      exact absurd (hmodel.symm.trans hmodel') (by simp)

section

variable [Chrono] [JsonText F] [Crypto]

theorem objects_signatureFindings_iff (bundle : Bundle F) :
    (signatureFindings bundle).Objects ↔ bundle.verifySignature ≠ .ok () := by
  rw [signatureFindings]
  split
  · next h => exact iff_of_false Findings.not_objects_none (not_not.mpr h)
  · next e h =>
      exact iff_of_true (Findings.objects_invalidate _)
        (by rw [h]; simp)

/-! ## The verdict -/

theorem isRankable_resultState_iff
    (bundle : Bundle F) (serverSide fatal : Bool)
    (reasons : List VerdictReason) :
    (resultState bundle serverSide fatal reasons).isRankable = true ↔
      fatal = false ∧ bundle.run.profile.isStandard = true ∧
        missingRequired bundle serverSide = [] ∧
        reasons.any isPartialReason = false ∧ serverSide = true := by
  have hlocal : bundle.localResultState.isRankable = false := by
    rw [Bundle.localResultState]
    split
    · rfl
    · split <;> rfl
  rw [resultState]
  cases fatal with
  | true => simp [ResultState.isRankable]
  | false =>
      cases bundle.run.profile.isStandard with
      | false => simp [ResultState.isRankable]
      | true =>
          cases hmissing : missingRequired bundle serverSide with
          | cons category rest => simp [ResultState.isRankable]
          | nil =>
              cases reasons.any isPartialReason with
              | true => simp [ResultState.isRankable]
              | false =>
                  cases serverSide with
                  | true => simp [ResultState.isRankable]
                  | false => simpa using hlocal

/-- A run is rankable exactly if the server validated a standard profile and
no section objects. -/
theorem isRankable_validateBundle_iff_not_objects
    (bundle : Bundle F) (serverSide : Bool) :
    (validateBundle bundle serverSide).verdict.state.isRankable = true ↔
      serverSide = true ∧ bundle.run.profile.isStandard = true ∧
        ¬ (allFindings bundle serverSide).Objects := by
  have hobjects : (allFindings bundle serverSide).Objects ↔
      (allFindings bundle serverSide).fatal = true ∨
        (allFindings bundle serverSide).reasons.any isPartialReason = true := by
    rw [Findings.Objects, List.any_eq_true]
  have hmissing : missingRequired bundle serverSide ≠ [] →
      (allFindings bundle serverSide).Objects := by
    intro h
    obtain ⟨category, hmem⟩ := List.exists_mem_of_ne_nil _ h
    refine (Findings.objects_append_iff _ _).mpr (Or.inr ?_)
    exact (Findings.objects_ofList_iff _ _).mpr
      ⟨category, hmem, objects_missingCategoryFindings category⟩
  rw [validateBundle]
  dsimp only
  rw [isRankable_resultState_iff, any_stableDedup]
  constructor
  · rintro ⟨hfatal, hstandard, _, hreasons, hserver⟩
    refine ⟨hserver, hstandard, fun h => ?_⟩
    rcases hobjects.mp h with h | h
    · rw [hfatal] at h
      exact absurd h (by decide)
    · rw [hreasons] at h
      exact absurd h (by decide)
  · rintro ⟨hserver, hstandard, hnot⟩
    rw [hobjects, not_or, Bool.not_eq_true, Bool.not_eq_true] at hnot
    refine ⟨hnot.1, hstandard, ?_, hnot.2, hserver⟩
    by_contra h
    rcases hobjects.mp (hmissing h) with h | h
    · rw [hnot.1] at h
      exact absurd h (by decide)
    · rw [hnot.2] at h
      exact absurd h (by decide)

/-- The conditions under which a bundle may be ranked. -/
structure MeetsRanking (bundle : Bundle F) : Prop where
  completed : bundle.run.state = .completed
  schema : bundle.metadata.schema = bundleSchemaVersion
  release : bundle.metadata.buildProfile = "release"
  clock : ¬ bundle.run.finishedAt < bundle.run.startedAt
  standard : bundle.run.profile.isStandard = true
  signed : bundle.verifySignature = .ok ()
  /-- The scores are those of a known model, and its card is complete. -/
  recomputed : ∃ model,
    ScoringModel.forVersion bundle.scores.scoringModel = some model ∧
      scoresMatch (model.scoreRun bundle.run.profile bundle.modules)
        bundle.scores = .ok () ∧
      (model.scoreRun bundle.run.profile
        bundle.modules).missingRequiredCategories = []
  modulesCompleted : ∀ module ∈ bundle.modules, module.status = .completed
  stable : ∀ module ∈ bundle.modules, ∀ metric ∈ module.metrics,
    metric.measuresDispersion = false → metric.tailQuantile = false →
      metric.summary.isUnstable 0.25 = false
  logicalCpus : 0 < bundle.environment.cpu.logicalCpus
  totalBytes : 0 < bundle.environment.memory.totalBytes
  environmentDigest : bundle.run.environmentDigest ≠ ""
  eventsDigest : bundle.run.eventsDigest ≠ ""

/-- On the server path, no section objects to a standard profile exactly if
the remaining conditions are met. -/
theorem not_objects_allFindings_iff (bundle : Bundle F) :
    bundle.run.profile.isStandard = true ∧
        ¬ (allFindings bundle true).Objects ↔
      MeetsRanking bundle := by
  have hcommon : ¬ (commonFindings bundle).Objects ↔
      bundle.run.state = .completed ∧
        bundle.metadata.schema = bundleSchemaVersion ∧
        bundle.metadata.buildProfile = "release" ∧
        (∀ module ∈ bundle.modules, module.status = .completed ∧
          ∀ metric ∈ module.metrics, isTooNoisy metric = false) ∧
        (∀ entry ∈ requiredMetadata bundle, entry.2 = true) ∧
        ¬ bundle.run.finishedAt < bundle.run.startedAt := by
    rw [commonFindings]
    simp only [Findings.objects_append_iff, Findings.objects_ofList_iff,
      objects_runCompletionFindings_iff, objects_schemaFindings_iff,
      objects_buildProfileFindings_iff, objects_moduleFindings_iff,
      objects_metadataFindings_iff, objects_clockFindings_iff,
      not_objects_profileFindings, or_false, not_or, not_exists, not_and,
      not_not, ne_eq, Bool.not_eq_true, Bool.not_eq_false, and_assoc]
  have hmetadata : (∀ entry ∈ requiredMetadata bundle, entry.2 = true) ↔
      0 < bundle.environment.cpu.logicalCpus ∧
        0 < bundle.environment.memory.totalBytes ∧
        bundle.run.environmentDigest ≠ "" ∧
        bundle.run.eventsDigest ≠ "" := by
    simp [requiredMetadata]
  have hnoisy : ∀ metric : Metric F, isTooNoisy metric = false ↔
      (metric.measuresDispersion = false → metric.tailQuantile = false →
        metric.summary.isUnstable 0.25 = false) := by
    intro metric
    rw [isTooNoisy, cvIsEvidenceOfInstability, maxAcceptableCv]
    cases metric.measuresDispersion <;> cases metric.tailQuantile <;> simp
  have hmissing : ¬ (Findings.ofList missingCategoryFindings
      (missingRequired bundle true)).Objects ↔
        missingRequired bundle true = [] := by
    rw [Findings.objects_ofList_iff]
    constructor
    · intro h
      by_contra hne
      obtain ⟨category, hmem⟩ := List.exists_mem_of_ne_nil _ hne
      exact h ⟨category, hmem, objects_missingCategoryFindings category⟩
    · rintro h ⟨category, hmem, _⟩
      rw [h] at hmem
      exact absurd hmem (by simp)
  have hserver : ¬ (serverChecks bundle true).findings.Objects ↔
      bundle.verifySignature = .ok () ∧ RecomputationMatches bundle := by
    change ¬ (signatureFindings bundle ++
      (recompute bundle).findings).Objects ↔ _
    rw [Findings.objects_append_iff, objects_signatureFindings_iff,
      objects_recompute_iff, not_or, not_not, not_not]
  have hscores : ∀ model,
      ScoringModel.forVersion bundle.scores.scoringModel = some model →
        scoresMatch (model.scoreRun bundle.run.profile bundle.modules)
          bundle.scores = .ok () →
        missingRequired bundle true =
          (model.scoreRun bundle.run.profile
            bundle.modules).missingRequiredCategories := by
    intro model hmodel hmatch
    simp [missingRequired, serverChecks, recompute, hmodel, hmatch]
  rw [allFindings, Findings.objects_append_iff, Findings.objects_append_iff,
    not_or, not_or, hcommon, hserver, hmissing, hmetadata]
  constructor
  · rintro ⟨hstandard, ⟨⟨hstate, hschema, hrelease, hmodules,
      ⟨hcpus, hbytes, henvironment, hevents⟩, hclock⟩, hsigned, model, hmodel,
      hmatch⟩, hnone⟩
    exact
      { completed := hstate
        schema := hschema
        release := hrelease
        clock := hclock
        standard := hstandard
        signed := hsigned
        recomputed :=
          ⟨model, hmodel, hmatch, hscores model hmodel hmatch ▸ hnone⟩
        modulesCompleted := fun module hmem => (hmodules module hmem).1
        stable := fun module hmem metric hmetric =>
          (hnoisy metric).mp ((hmodules module hmem).2 metric hmetric)
        logicalCpus := hcpus
        totalBytes := hbytes
        environmentDigest := henvironment
        eventsDigest := hevents }
  · intro h
    obtain ⟨model, hmodel, hmatch, hnone⟩ := h.recomputed
    refine ⟨h.standard, ⟨⟨h.completed, h.schema, h.release, ?_,
      ⟨h.logicalCpus, h.totalBytes, h.environmentDigest, h.eventsDigest⟩,
      h.clock⟩, h.signed, model, hmodel, hmatch⟩,
      (hscores model hmodel hmatch).trans hnone⟩
    intro module hmem
    exact ⟨h.modulesCompleted module hmem, fun metric hmetric =>
      (hnoisy metric).mpr (h.stable module hmem metric hmetric)⟩

/-- A standard run to which no section objects was given no reason at all. -/
theorem reasons_allFindings_eq_nil
    (bundle : Bundle F) (serverSide : Bool)
    (hstandard : bundle.run.profile.isStandard = true)
    (hnot : ¬ (allFindings bundle serverSide).Objects) :
    (allFindings bundle serverSide).reasons = [] := by
  have hprofile : (profileFindings bundle.run).Effective := by
    rw [profileFindings, if_pos hstandard]
    exact Findings.effective_none
  have hcommon : (commonFindings bundle).Effective :=
    Findings.effective_append
      (Findings.effective_append
        (Findings.effective_append
          (Findings.effective_append
            (Findings.effective_append
              (Findings.effective_append
                (effective_runCompletionFindings _)
                (Findings.effective_ite (effective_invalidate _)
                  Findings.effective_none))
              (Findings.effective_ite (effective_downgrade rfl)
                Findings.effective_none))
            (Findings.effective_ofList effective_moduleFindings _))
          (Findings.effective_ofList effective_metadataFindings _))
        (Findings.effective_ite (effective_invalidate _)
          Findings.effective_none))
      hprofile
  have hsignature : (signatureFindings bundle).Effective := by
    rw [signatureFindings]
    split
    · exact Findings.effective_none
    · exact effective_invalidate _
  have hserver : (serverChecks bundle serverSide).findings.Effective := by
    cases serverSide with
    | true =>
        exact Findings.effective_append hsignature (effective_recompute bundle)
    | false => exact Findings.effective_none
  have hmissing := Findings.effective_ofList
    (fun category => Findings.effective_of_objects
      (objects_missingCategoryFindings category))
    (missingRequired bundle serverSide)
  exact Findings.effective_append
    (Findings.effective_append hcommon hserver) hmissing hnot

/-- A bundle is rankable exactly on the server path and when every condition
is met.  No reason is lost on the way: all raised reasons are in the verdict, a
rankable run has none, and a degraded module is always named and never ranked.
-/
theorem isRankable_validateBundle_iff
    (bundle : Bundle F) (serverSide : Bool) :
    ((validateBundle bundle serverSide).verdict.state.isRankable = true ↔
      serverSide = true ∧ MeetsRanking bundle) ∧
    (∀ reason, reason ∈ (allFindings bundle serverSide).reasons ↔
      reason ∈ (validateBundle bundle serverSide).verdict.reasons) ∧
    (∀ reason ∈ (validateBundle bundle serverSide).verdict.reasons,
      (validateBundle bundle serverSide).verdict.state.isRankable = false) ∧
    (∀ module ∈ bundle.modules, module.status = .degraded →
      degradationReason module ∈
          (validateBundle bundle serverSide).verdict.reasons ∧
        (validateBundle bundle serverSide).verdict.state.isRankable =
          false) := by
  have hreasons : ∀ reason, reason ∈ (allFindings bundle serverSide).reasons ↔
      reason ∈ (validateBundle bundle serverSide).verdict.reasons :=
    fun reason => mem_stableDedup.symm
  have hlost : ∀ reason ∈ (validateBundle bundle serverSide).verdict.reasons,
      (validateBundle bundle serverSide).verdict.state.isRankable = false := by
    intro reason hmem
    rw [← Bool.not_eq_true]
    intro hrankable
    obtain ⟨_, hstandard, hnot⟩ :=
      (isRankable_validateBundle_iff_not_objects bundle serverSide).mp
        hrankable
    have hnil := reasons_allFindings_eq_nil bundle serverSide hstandard hnot
    rw [← hreasons, hnil] at hmem
    exact absurd hmem (by simp)
  refine ⟨?_, hreasons, hlost, ?_⟩
  · rw [isRankable_validateBundle_iff_not_objects]
    constructor
    · rintro ⟨rfl, h⟩
      exact ⟨rfl, (not_objects_allFindings_iff bundle).mp h⟩
    · rintro ⟨rfl, h⟩
      exact ⟨rfl, (not_objects_allFindings_iff bundle).mpr h⟩
  · intro module hmem hdegraded
    have hraised : degradationReason module ∈
        (allFindings bundle serverSide).reasons := by
      have hmodule : degradationReason module ∈
          (moduleFindings module).reasons := by
        rw [moduleFindings, Findings.reasons_append, statusFindings, hdegraded]
        exact List.mem_append_left _ (List.mem_singleton.mpr rfl)
      have hmodules : degradationReason module ∈
          (Findings.ofList moduleFindings bundle.modules).reasons := by
        rw [Findings.reasons_ofList]
        exact List.mem_flatMap.mpr ⟨module, hmem, hmodule⟩
      simp only [allFindings, commonFindings, Findings.reasons_append,
        List.mem_append]
      tauto
    exact ⟨(hreasons _).mp hraised, hlost _ ((hreasons _).mp hraised)⟩

end

end Darcbench
