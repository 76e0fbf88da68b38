import Darcbench.Protocol.GrantedPlan

/-!
# Changes of a plan are noted

Every change of the rate, of the duration and of the workers has a note, and
every note is on such a change.  A request for no phases is raised to one
without a note.
-/

namespace Darcbench

namespace External

variable {F : Type}

/-- The granted plan has another value in the field. -/
def LoadRequest.Differs (granted wanted : LoadRequest F) : PlanField → Prop
  | .ratePerS => granted.ratePerS ≠ wanted.ratePerS
  | .durationMs => granted.durationMs ≠ wanted.durationMs
  | .workers => granted.workers ≠ wanted.workers
  | .phases => granted.phases ≠ wanted.phases

theorem LoadRequest.eq_iff (granted wanted : LoadRequest F) :
    granted = wanted ↔ ∀ field, ¬ granted.Differs wanted field := by
  constructor
  · rintro rfl field
    cases field <;> exact not_not.mpr rfl
  · intro h
    obtain ⟨rate, duration, workers, phases⟩ := granted
    obtain rfl : rate = wanted.ratePerS := not_not.mp (h .ratePerS)
    obtain rfl : duration = wanted.durationMs := not_not.mp (h .durationMs)
    obtain rfl : workers = wanted.workers := not_not.mp (h .workers)
    obtain rfl : phases = wanted.phases := not_not.mp (h .phases)
    rfl

/-- A note reports a change of the field. -/
def Noted (clamps : List (Clamp F)) (field : PlanField) : Prop :=
  ∃ clamp ∈ clamps, clamp.field = field

section Noted

variable {clamps : List (Clamp F)} {field : PlanField}

theorem eq_nil_iff_not_noted :
    clamps = [] ↔ ∀ field, ¬ Noted clamps field := by
  constructor
  · rintro rfl field ⟨clamp, hclamp, -⟩
    exact absurd hclamp List.not_mem_nil
  · intro h
    refine List.eq_nil_iff_forall_not_mem.mpr fun clamp hclamp => ?_
    exact h clamp.field ⟨clamp, hclamp, rfl⟩

theorem not_noted_nil : ¬ Noted ([] : List (Clamp F)) field := by
  rintro ⟨clamp, hclamp, -⟩
  exact absurd hclamp List.not_mem_nil

theorem noted_concat (clamp : Clamp F) :
    Noted (clamps ++ [clamp]) field ↔
      Noted clamps field ∨ clamp.field = field := by
  constructor
  · rintro ⟨c, hc, hfield⟩
    rcases List.mem_append.mp hc with hc | hc
    · exact .inl ⟨c, hc, hfield⟩
    · exact .inr (List.mem_singleton.mp hc ▸ hfield)
  · rintro (⟨c, hc, hfield⟩ | hfield)
    · exact ⟨c, List.mem_append_left _ hc, hfield⟩
    · exact ⟨clamp, List.mem_append_right _ (List.mem_singleton_self _), hfield⟩

/-- A note on a condition. -/
theorem noted_ite {p : Prop} [Decidable p] {plan changed : Plan F}
    (clamp : Clamp F) (hchanged : changed.clamps = plan.clamps ++ [clamp]) :
    Noted (if p then changed else plan).clamps field ↔
      Noted plan.clamps field ∨ p ∧ clamp.field = field := by
  by_cases hp : p
  · rw [if_pos hp, hchanged, noted_concat]
    exact or_congr_right (and_iff_right hp).symm
  · rw [if_neg hp]
    exact (or_iff_left fun h => hp h.1).symm

end Noted

namespace Plan

variable (plan : Plan F) (field : PlanField)

theorem noted_clampRate [F64 F] (maxRatePerS : F) :
    Noted (plan.clampRate maxRatePerS).clamps field ↔
      Noted plan.clamps field ∨
        maxRatePerS < plan.granted.ratePerS ∧ PlanField.ratePerS = field := by
  rw [clampRate]
  exact noted_ite (.rate plan.granted.ratePerS maxRatePerS) rfl

theorem noted_clampDuration (maxDurationMs : UInt64) :
    Noted (plan.clampDuration maxDurationMs).clamps field ↔
      Noted plan.clamps field ∨
        maxDurationMs < plan.granted.durationMs ∧
          PlanField.durationMs = field := by
  rw [clampDuration]
  exact noted_ite (.duration plan.granted.durationMs maxDurationMs) rfl

theorem noted_fillDuration (maxDurationMs : UInt64) :
    Noted (plan.fillDuration maxDurationMs).clamps field ↔
      Noted plan.clamps field ∨
        plan.granted.durationMs = 0 ∧ PlanField.durationMs = field := by
  rw [fillDuration]
  exact noted_ite .zeroDuration rfl

theorem noted_clampWorkers (maxWorkers : UInt32) :
    Noted (plan.clampWorkers maxWorkers).clamps field ↔
      Noted plan.clamps field ∨
        maxWorkers < plan.granted.workers ∧ PlanField.workers = field := by
  rw [clampWorkers]
  exact noted_ite (.workers plan.granted.workers maxWorkers) rfl

theorem noted_fillWorkers :
    Noted plan.fillWorkers.clamps field ↔
      Noted plan.clamps field ∨
        plan.granted.workers = 0 ∧ PlanField.workers = field := by
  rw [fillWorkers]
  exact noted_ite .zeroWorkers rfl

/-- The number of phases is raised without a note. -/
theorem noted_fillPhases :
    Noted plan.fillPhases.clamps field ↔ Noted plan.clamps field :=
  Iff.rfl

theorem noted_clampToSession (expiresInMs perPhase : UInt64) :
    Noted (plan.clampToSession expiresInMs perPhase).clamps field ↔
      Noted plan.clamps field ∨
        perPhase < plan.granted.durationMs ∧ PlanField.durationMs = field := by
  rw [clampToSession]
  exact noted_ite (.session expiresInMs plan.granted.phases perPhase
    plan.granted.durationMs) rfl

end Plan

namespace SessionOffer

variable [F64 F] {offer : SessionOffer F} {wanted : LoadRequest F}

/-- The notes of a granted plan, in the order of the checks. -/
theorem noted_grant (offer : SessionOffer F) (wanted : LoadRequest F)
    (field : PlanField) :
    Noted (offer.grant wanted).clamps field ↔
      ((((offer.maxRatePerS < wanted.ratePerS ∧ PlanField.ratePerS = field ∨
        offer.maxDurationMs < wanted.durationMs ∧
          PlanField.durationMs = field) ∨
        capped offer.maxDurationMs wanted.durationMs = 0 ∧
          PlanField.durationMs = field) ∨
        offer.maxWorkers < wanted.workers ∧ PlanField.workers = field) ∨
        capped offer.maxWorkers wanted.workers = 0 ∧
          PlanField.workers = field) ∨
        offer.perPhase wanted < filled offer.maxDurationMs
            (capped offer.maxDurationMs wanted.durationMs) ∧
          PlanField.durationMs = field := by
  simp only [grant, clampToCeilings, Plan.noted_clampToSession,
    Plan.noted_fillPhases, Plan.noted_fillWorkers, Plan.noted_clampWorkers,
    Plan.noted_fillDuration, Plan.noted_clampDuration, Plan.noted_clampRate,
    Plan.granted_fillPhases, Plan.granted_fillWorkers,
    Plan.granted_clampWorkers, Plan.granted_fillDuration,
    Plan.granted_clampDuration, Plan.granted_clampRate, not_noted_nil,
    false_or]

theorem differs_rate_iff [F64.Strict F] [F64.OrdersFinite F] :
    (offer.grant wanted).granted.Differs wanted .ratePerS ↔
      Noted (offer.grant wanted).clamps .ratePerS := by
  rw [noted_grant, granted_grant]
  simp only [LoadRequest.Differs, reduceCtorEq, and_true, and_false, or_false]
  rw [capped]
  by_cases hlt : offer.maxRatePerS < wanted.ratePerS
  · rw [if_pos hlt]
    refine iff_of_true (fun heq => ?_) hlt
    rw [heq] at hlt
    exact F64.not_lt_self _ hlt
  · rw [if_neg hlt]
    exact iff_of_false (not_not.mpr rfl) hlt

theorem differs_duration_iff (h : offer.Acceptable wanted) :
    (offer.grant wanted).granted.Differs wanted .durationMs ↔
      Noted (offer.grant wanted).clamps .durationMs := by
  have hmax : offer.maxDurationMs.toNat ≠ 0 :=
    fun hzero => h.maxDuration (UInt64.toNat_inj.mp hzero)
  have hperPhase : 1000 ≤ (offer.perPhase wanted).toNat :=
    UInt64.le_iff_toNat_le.mp h.lasts
  have hduration := toNat_granted_duration (offer.perPhase wanted)
    offer.maxDurationMs wanted.durationMs
  have hcapped := toNat_capped offer.maxDurationMs wanted.durationMs
  have hfilled := toNat_filled offer.maxDurationMs
    (capped offer.maxDurationMs wanted.durationMs)
  rw [noted_grant, granted_grant]
  simp only [LoadRequest.Differs, reduceCtorEq, and_true, and_false, or_false,
    false_or, ne_eq, ← UInt64.toNat_inj, UInt64.lt_iff_toNat_lt]
  rw [hduration, hfilled, hcapped]
  show _ ↔ (_ ∨ _ = 0) ∨ _
  split_ifs <;> omega

theorem differs_workers_iff (h : offer.Acceptable wanted) :
    (offer.grant wanted).granted.Differs wanted .workers ↔
      Noted (offer.grant wanted).clamps .workers := by
  have hmax : offer.maxWorkers.toNat ≠ 0 :=
    fun hzero => h.maxWorkers (UInt32.toNat_inj.mp hzero)
  have hworkers := toNat_granted_workers offer.maxWorkers wanted.workers
  have hcapped := toNat_capped_workers offer.maxWorkers wanted.workers
  rw [noted_grant, granted_grant]
  simp only [LoadRequest.Differs, reduceCtorEq, and_true, and_false, or_false,
    false_or, ne_eq, ← UInt32.toNat_inj, UInt32.lt_iff_toNat_lt]
  rw [hworkers, hcapped]
  show _ ↔ _ ∨ _ = 0
  split_ifs <;> omega

/-- No note is on the phases. -/
theorem not_noted_phases : ¬ Noted (offer.grant wanted).clamps .phases := by
  rw [noted_grant]
  simp only [reduceCtorEq, and_false, or_false, not_false_eq_true]

theorem differs_phases_iff :
    (offer.grant wanted).granted.Differs wanted .phases ↔
      wanted.phases = 0 := by
  rw [granted_grant]
  show max wanted.phases 1 ≠ wanted.phases ↔ _
  have hmax := toNat_max_one wanted.phases
  rw [UInt32.toNat_toUInt64] at hmax
  rw [ne_eq, ← UInt32.toNat_inj, ← UInt32.toNat_inj, hmax]
  show _ ↔ _ = 0
  omega

/-- Every field that differs is noted exactly if phases were requested. -/
theorem noted_iff_differs [F64.Strict F] [F64.OrdersFinite F]
    (h : offer.Acceptable wanted) (hphases : wanted.phases ≠ 0)
    (field : PlanField) :
    (offer.grant wanted).granted.Differs wanted field ↔
      Noted (offer.grant wanted).clamps field := by
  cases field with
  | ratePerS => exact differs_rate_iff
  | durationMs => exact differs_duration_iff h
  | workers => exact differs_workers_iff h
  | phases =>
      exact iff_of_false (differs_phases_iff.not.mpr hphases) not_noted_phases

end SessionOffer

/-- A plan is granted unchanged exactly when there is no note, and every field
that differs has one. -/
structure NothingSilent (wanted : LoadRequest F) (s : AcceptedSession F) :
    Prop where
  unchanged_iff : s.granted = wanted ↔ s.clamps = []
  noted : ∀ field, s.granted.Differs wanted field → Noted s.clamps field

namespace SessionOffer

/-- Nothing is granted silently, unless no phases are requested. -/
theorem nothingSilent_iff [F64 F] [F64.Shortest F] [F64.Strict F]
    [F64.OrdersFinite F] {offer : SessionOffer F} {wanted : LoadRequest F}
    {s : AcceptedSession F} (h : offer.accept wanted = some (.ok s)) :
    NothingSilent wanted s ↔ wanted.phases ≠ 0 := by
  obtain ⟨hacceptable, rfl⟩ := accept_eq_ok_iff.mp h
  constructor
  · intro hsilent hphases
    exact not_noted_phases
      (hsilent.noted .phases (differs_phases_iff.mpr hphases))
  · intro hphases
    have hnoted := noted_iff_differs hacceptable hphases
    refine ⟨?_, fun field => (hnoted field).mp⟩
    rw [LoadRequest.eq_iff, eq_nil_iff_not_noted]
    exact forall_congr' fun field => not_congr (hnoted field)

theorem nothingSilent_iff_four :
    NothingSilent (modestRequest 4) (roomyOffer.grant (modestRequest 4)) ↔
      (modestRequest 4).phases ≠ 0 :=
  nothingSilent_iff (accept_of_acceptable acceptable_modestRequest.2)

/-- No phases are raised to one without a note. -/
theorem not_nothingSilent_noPhases :
    ¬ ∀ (offer : SessionOffer Float) (wanted : LoadRequest Float)
      (s : AcceptedSession Float), offer.accept wanted = some (.ok s) →
        NothingSilent wanted s := by
  intro h
  have hsilent := h roomyOffer (modestRequest 0) _
    (accept_of_acceptable acceptable_modestRequest.1)
  exact not_noted_phases
    (hsilent.noted .phases (differs_phases_iff.mpr rfl))

end SessionOffer

end External

end Darcbench
