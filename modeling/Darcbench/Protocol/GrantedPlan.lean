import Darcbench.Protocol.SessionOffer

/-!
# The plan a session grants

A granted plan fits within the ceilings of the target and within the lifetime
of the session.  Every change of the rate, of the duration and of the workers
is noted.  A request for no phases is raised to one without a note.
-/

namespace Darcbench

namespace External

variable {F : Type}

/-- A value, lowered to a limit. -/
def capped {α : Type} [LT α] [DecidableLT α] (limit value : α) : α :=
  if limit < value then limit else value

/-- A value, with another in the place of zero. -/
def filled {α : Type} [OfNat α 0] [DecidableEq α]
    (fallback value : α) : α :=
  if value = 0 then fallback else value

namespace Plan

variable (plan : Plan F)

@[simp] theorem granted_clampRate [F64 F] (maxRatePerS : F) :
    (plan.clampRate maxRatePerS).granted =
      { plan.granted with
        ratePerS := capped maxRatePerS plan.granted.ratePerS } := by
  rw [clampRate, capped]
  split <;> rfl

@[simp] theorem granted_clampDuration (maxDurationMs : UInt64) :
    (plan.clampDuration maxDurationMs).granted =
      { plan.granted with
        durationMs := capped maxDurationMs plan.granted.durationMs } := by
  rw [clampDuration, capped]
  split <;> rfl

@[simp] theorem granted_fillDuration (maxDurationMs : UInt64) :
    (plan.fillDuration maxDurationMs).granted =
      { plan.granted with
        durationMs := filled maxDurationMs plan.granted.durationMs } := by
  rw [fillDuration, filled]
  split <;> rfl

@[simp] theorem granted_clampWorkers (maxWorkers : UInt32) :
    (plan.clampWorkers maxWorkers).granted =
      { plan.granted with
        workers := capped maxWorkers plan.granted.workers } := by
  rw [clampWorkers, capped]
  split <;> rfl

@[simp] theorem granted_fillWorkers :
    plan.fillWorkers.granted =
      { plan.granted with workers := filled 1 plan.granted.workers } := by
  rw [fillWorkers, filled]
  split <;> rfl

@[simp] theorem granted_fillPhases :
    plan.fillPhases.granted =
      { plan.granted with phases := max plan.granted.phases 1 } :=
  rfl

@[simp] theorem granted_clampToSession (expiresInMs perPhase : UInt64) :
    (plan.clampToSession expiresInMs perPhase).granted =
      { plan.granted with
        durationMs := capped perPhase plan.granted.durationMs } := by
  rw [clampToSession, capped]
  split <;> rfl

end Plan

namespace SessionOffer

variable [F64 F]

/-- The session time of each phase. -/
def perPhase (offer : SessionOffer F) (wanted : LoadRequest F) : UInt64 :=
  offer.budget / (max wanted.phases 1).toUInt64

/-- The session on the plan that the ceilings and the lifetime leave. -/
def grant (offer : SessionOffer F) (wanted : LoadRequest F) :
    AcceptedSession F where
  toPlan := (offer.clampToCeilings wanted).clampToSession offer.expiresInMs
    (offer.perPhase wanted)
  sessionId := offer.sessionId
  objectSizes := offer.objectSizes
  tls := offer.tls
  certificateDer := offer.certificateDer

/-- An offer and a request that no check refuses. -/
structure Acceptable (offer : SessionOffer F) (wanted : LoadRequest F) :
    Prop where
  protocol : offer.protocol = externalProtocolVersion
  expires : offer.expiresInMs ≠ 0
  serves : offer.objectSizes.isEmpty = false
  pinnable : (offer.tls && offer.certificateDer.isNone) = false
  maxRate_finite : F64.isFinite offer.maxRatePerS = true
  maxRate_pos : ¬ offer.maxRatePerS ≤ 0.0
  maxDuration : offer.maxDurationMs ≠ 0
  maxWorkers : offer.maxWorkers ≠ 0
  rate_finite : F64.isFinite wanted.ratePerS = true
  rate_pos : ¬ wanted.ratePerS ≤ 0.0
  lasts : minPhaseMs ≤ offer.perPhase wanted

variable (offer : SessionOffer F) (wanted : LoadRequest F)

theorem toNat_max_one (phases : UInt32) :
    (max phases 1).toUInt64.toNat = max phases.toNat 1 := by
  rw [UInt32.toNat_toUInt64]
  show (if phases ≤ 1 then 1 else phases).toNat = _
  split_ifs with h
  · exact (max_eq_right (UInt32.le_iff_toNat_le.mp h)).symm
  · exact (max_eq_left (UInt32.le_iff_toNat_le.mp
      (UInt32.le_of_lt (UInt32.not_le.mp h)))).symm

/-- The phases are never none, so that the division does not trap. -/
theorem checkedDiv_budget :
    checkedDiv offer.budget
        (offer.clampToCeilings wanted).granted.phases.toUInt64 =
      some (offer.perPhase wanted) := by
  have hphases : (offer.clampToCeilings wanted).granted.phases =
      max wanted.phases 1 := by
    simp [clampToCeilings]
  have hne : (max wanted.phases 1).toUInt64 ≠ 0 := by
    intro h
    have hzero := congrArg UInt64.toNat h
    rw [toNat_max_one] at hzero
    exact absurd hzero (by simp)
  rw [hphases, checkedDiv, if_neg hne, perPhase]

theorem granted_grant :
    (offer.grant wanted).granted =
      { ratePerS := capped offer.maxRatePerS wanted.ratePerS
        durationMs := capped (offer.perPhase wanted)
          (filled offer.maxDurationMs
            (capped offer.maxDurationMs wanted.durationMs))
        workers := filled 1 (capped offer.maxWorkers wanted.workers)
        phases := max wanted.phases 1 } := by
  simp only [grant, clampToCeilings, Plan.granted_clampRate,
    Plan.granted_clampDuration, Plan.granted_fillDuration,
    Plan.granted_clampWorkers, Plan.granted_fillWorkers,
    Plan.granted_fillPhases, Plan.granted_clampToSession]

variable [F64.Shortest F]

/-- No arithmetic traps. -/
theorem isSome_accept : (offer.accept wanted).isSome = true := by
  unfold accept
  split_ifs
  case neg =>
    show ((checkedDiv _ _).map _).isSome = true
    rw [checkedDiv_budget]
    rfl
  all_goals rfl

theorem accept_of_acceptable {offer : SessionOffer F} {wanted : LoadRequest F}
    (h : offer.Acceptable wanted) :
    offer.accept wanted = some (.ok (offer.grant wanted)) := by
  have hrate : ¬ (¬ F64.isFinite offer.maxRatePerS = true ∨
      offer.maxRatePerS ≤ 0.0) :=
    not_or.mpr ⟨not_not.mpr h.maxRate_finite, h.maxRate_pos⟩
  have hwanted : ¬ (¬ F64.isFinite wanted.ratePerS = true ∨
      wanted.ratePerS ≤ 0.0) :=
    not_or.mpr ⟨not_not.mpr h.rate_finite, h.rate_pos⟩
  have hserves := Bool.eq_false_iff.mp h.serves
  have hpinnable := Bool.eq_false_iff.mp h.pinnable
  unfold accept
  rw [if_neg (not_not.mpr h.protocol), if_neg h.expires, if_neg hserves,
    if_neg hpinnable, if_neg hrate,
    if_neg (not_or.mpr ⟨h.maxDuration, h.maxWorkers⟩), if_neg hwanted]
  show (checkedDiv _ _).map _ = _
  rw [checkedDiv_budget, Option.map_some,
    if_neg (UInt64.not_lt.mpr h.lasts)]
  rfl

/-- A session is granted exactly when no check refuses it. -/
theorem accept_eq_ok_iff {offer : SessionOffer F} {wanted : LoadRequest F}
    {s : AcceptedSession F} :
    offer.accept wanted = some (.ok s) ↔
      offer.Acceptable wanted ∧ s = offer.grant wanted := by
  constructor
  · intro h
    suffices hacceptable : offer.Acceptable wanted by
      have hok := (accept_of_acceptable hacceptable).symm.trans h
      refine ⟨hacceptable, ?_⟩
      rw [Option.some.injEq, Except.ok.injEq] at hok
      exact hok.symm
    unfold accept at h
    split_ifs at h with hprotocol hexpires hserves hpinnable hrate hceilings
      hwanted
    · cases h
    · cases h
    · cases h
    · cases h
    · cases h
    · cases h
    · cases h
    change (checkedDiv _ _).map _ = _ at h
    rw [checkedDiv_budget] at h
    obtain ⟨hfinite, hpos⟩ := not_or.mp hrate
    obtain ⟨hduration, hworkers⟩ := not_or.mp hceilings
    obtain ⟨hfinite', hpos'⟩ := not_or.mp hwanted
    have hlasts : ¬ offer.perPhase wanted < minPhaseMs := by
      intro hlt
      rw [Option.map_some, if_pos hlt] at h
      exact absurd h (by simp)
    exact ⟨not_not.mp hprotocol, hexpires, Bool.eq_false_iff.mpr hserves,
      Bool.eq_false_iff.mpr hpinnable, not_not.mp hfinite, hpos, hduration,
      hworkers, not_not.mp hfinite', hpos', UInt64.not_lt.mp hlasts⟩
  · rintro ⟨hacceptable, rfl⟩
    exact accept_of_acceptable hacceptable

/-! ## Accepted plans fit -/

/-- A granted plan is within the ceilings, the request and the lifetime. -/
structure Fits (offer : SessionOffer F) (wanted granted : LoadRequest F) :
    Prop where
  phases_pos : 1 ≤ granted.phases
  workers_pos : 1 ≤ granted.workers
  workers_le : granted.workers ≤ offer.maxWorkers
  rate_pos : 0.0 < granted.ratePerS
  rate_le : granted.ratePerS ≤ F64.min wanted.ratePerS offer.maxRatePerS
  duration_pos : 0 < granted.durationMs
  duration_le : granted.durationMs ≤ offer.maxDurationMs
  duration_le_wanted :
    wanted.durationMs ≠ 0 → granted.durationMs ≤ wanted.durationMs
  lasts : granted.phases.toNat * granted.durationMs.toNat +
    sessionOverheadMs.toNat ≤ offer.expiresInMs.toNat
  /-- The total is computed without overflow. -/
  computes : (granted.phases.toUInt64 * granted.durationMs +
      sessionOverheadMs).toNat =
    granted.phases.toNat * granted.durationMs.toNat + sessionOverheadMs.toNat

section Ceilings

omit [F64.Shortest F]

theorem toNat_capped (limit value : UInt64) :
    (capped limit value).toNat = min value.toNat limit.toNat := by
  rw [capped]
  split_ifs with h
  · exact (min_eq_right (UInt64.le_iff_toNat_le.mp (UInt64.le_of_lt h))).symm
  · exact (min_eq_left (UInt64.le_iff_toNat_le.mp (UInt64.not_lt.mp h))).symm

theorem toNat_capped_workers (limit value : UInt32) :
    (capped limit value).toNat = min value.toNat limit.toNat := by
  rw [capped]
  split_ifs with h
  · exact (min_eq_right (UInt32.le_iff_toNat_le.mp (UInt32.le_of_lt h))).symm
  · exact (min_eq_left (UInt32.le_iff_toNat_le.mp (UInt32.not_lt.mp h))).symm

theorem toNat_filled (fallback value : UInt64) :
    (filled fallback value).toNat =
      if value.toNat = 0 then fallback.toNat else value.toNat := by
  rw [filled]
  by_cases h : value = 0
  · rw [if_pos h, if_pos (by rw [h]; rfl)]
  · have hne : value.toNat ≠ 0 := fun hzero => h (UInt64.toNat_inj.mp hzero)
    rw [if_neg h, if_neg hne]

theorem toNat_filled_workers (fallback value : UInt32) :
    (filled fallback value).toNat =
      if value.toNat = 0 then fallback.toNat else value.toNat := by
  rw [filled]
  by_cases h : value = 0
  · rw [if_pos h, if_pos (by rw [h]; rfl)]
  · have hne : value.toNat ≠ 0 := fun hzero => h (UInt32.toNat_inj.mp hzero)
    rw [if_neg h, if_neg hne]

theorem toNat_granted_duration (perPhase limit value : UInt64) :
    (capped perPhase (filled limit (capped limit value))).toNat =
      min (if min value.toNat limit.toNat = 0 then limit.toNat
        else min value.toNat limit.toNat) perPhase.toNat := by
  simp only [toNat_capped, toNat_filled]

theorem toNat_granted_workers (limit value : UInt32) :
    (filled 1 (capped limit value)).toNat =
      if min value.toNat limit.toNat = 0 then 1
      else min value.toNat limit.toNat := by
  simp only [toNat_capped_workers, toNat_filled_workers]
  rfl

omit [F64 F] in
theorem toNat_budget (offer : SessionOffer F) :
    offer.budget.toNat = max (offer.expiresInMs.toNat - 10000) 1 := by
  have hsub : (saturatingSub offer.expiresInMs sessionOverheadMs).toNat =
      offer.expiresInMs.toNat - 10000 := toNat_saturatingSub _ _
  show (if saturatingSub offer.expiresInMs sessionOverheadMs ≤ 1 then 1
    else saturatingSub offer.expiresInMs sessionOverheadMs).toNat = _
  split_ifs with h
  · exact (max_eq_right (hsub ▸ UInt64.le_iff_toNat_le.mp h)).symm
  · have hlt := UInt64.lt_iff_toNat_lt.mp (UInt64.not_le.mp h)
    rw [hsub] at hlt ⊢
    exact (max_eq_left (Nat.le_of_lt hlt)).symm

omit [F64 F] in
theorem toNat_perPhase (offer : SessionOffer F) (wanted : LoadRequest F) :
    (offer.perPhase wanted).toNat =
      max (offer.expiresInMs.toNat - 10000) 1 / max wanted.phases.toNat 1 := by
  rw [perPhase, UInt64.toNat_div, toNat_budget, toNat_max_one]

/-- A phase that lasts leaves the overhead to the session. -/
theorem lasts_of_acceptable {offer : SessionOffer F} {wanted : LoadRequest F}
    (h : offer.Acceptable wanted) :
    max wanted.phases.toNat 1 * (offer.perPhase wanted).toNat + 10000 ≤
      offer.expiresInMs.toNat := by
  have hlasts := UInt64.le_iff_toNat_le.mp h.lasts
  rw [toNat_perPhase] at hlasts ⊢
  have hpos : 0 < max wanted.phases.toNat 1 := lt_max_of_lt_right Nat.one_pos
  have hmul := Nat.mul_div_le (max (offer.expiresInMs.toNat - 10000) 1)
    (max wanted.phases.toNat 1)
  have hthousand : 1000 ≤ max (offer.expiresInMs.toNat - 10000) 1 := by
    refine le_trans ?_ (Nat.div_le_self _ (max wanted.phases.toNat 1))
    exact hlasts
  omega

end Ceilings

section Rates

omit [F64.Shortest F]

/-- The rate is lowered at most to the ceiling. -/
theorem rate_le_min [F64.OrdersFinite F] {a b : F}
    (ha : F64.isFinite a = true) (hb : F64.isFinite b = true) :
    capped b a ≤ F64.min a b := by
  have hnan : F64.isNan a = false := by
    simpa [F64.isNan] using F64.le_refl_of_isFinite ha
  rw [capped, F64.min, hnan, if_neg Bool.false_ne_true]
  by_cases hlt : b < a
  · rw [if_pos hlt]
    exact F64.le_refl_of_isFinite hb
  · rw [if_neg hlt]
    exact F64.le_refl_of_isFinite ha

theorem zero_lt_capped [F64.OrdersFinite F] {offer : SessionOffer F}
    {wanted : LoadRequest F} (h : offer.Acceptable wanted) :
    0.0 < capped offer.maxRatePerS wanted.ratePerS := by
  rw [capped]
  split_ifs
  · exact F64.zero_lt_of_not_le h.maxRate_finite h.maxRate_pos
  · exact F64.zero_lt_of_not_le h.rate_finite h.rate_pos

theorem fits_grant [F64.OrdersFinite F] {offer : SessionOffer F}
    {wanted : LoadRequest F} (h : offer.Acceptable wanted) :
    offer.Fits wanted (offer.grant wanted).granted := by
  have hmax : offer.maxDurationMs.toNat ≠ 0 :=
    fun hzero => h.maxDuration (UInt64.toNat_inj.mp hzero)
  have hmaxWorkers : offer.maxWorkers.toNat ≠ 0 :=
    fun hzero => h.maxWorkers (UInt32.toNat_inj.mp hzero)
  have hlasts := lasts_of_acceptable h
  have hperPhase : 1000 ≤ (offer.perPhase wanted).toNat :=
    UInt64.le_iff_toNat_le.mp h.lasts
  have hphases : (max wanted.phases 1).toNat = max wanted.phases.toNat 1 := by
    rw [← toNat_max_one, UInt32.toNat_toUInt64]
  have hduration := toNat_granted_duration (offer.perPhase wanted)
    offer.maxDurationMs wanted.durationMs
  have hworkers := toNat_granted_workers offer.maxWorkers wanted.workers
  rw [granted_grant]
  generalize max wanted.phases 1 = phases at hphases ⊢
  generalize capped (offer.perPhase wanted) _ = duration at hduration ⊢
  generalize filled 1 _ = workers at hworkers ⊢
  have hbudget : phases.toNat * duration.toNat + 10000 ≤
      offer.expiresInMs.toNat := by
    have hle := Nat.mul_le_mul_left phases.toNat
      (hduration.trans_le (min_le_right _ _))
    rw [← hphases] at hlasts
    omega
  have hlifetime := offer.expiresInMs.toNat_lt
  exact
    { phases_pos := by
        rw [UInt32.le_iff_toNat_le, hphases]
        exact le_max_right _ _
      workers_pos := by
        rw [UInt32.le_iff_toNat_le, hworkers]
        show 1 ≤ _
        split_ifs <;> omega
      workers_le := by
        rw [UInt32.le_iff_toNat_le, hworkers]
        split_ifs <;> omega
      rate_pos := zero_lt_capped h
      rate_le := rate_le_min h.rate_finite h.maxRate_finite
      duration_pos := by
        rw [UInt64.lt_iff_toNat_lt, hduration]
        show 0 < _
        split_ifs <;> omega
      duration_le := by
        rw [UInt64.le_iff_toNat_le, hduration]
        split_ifs <;> omega
      duration_le_wanted := by
        intro hne
        have hne' : wanted.durationMs.toNat ≠ 0 :=
          fun hzero => hne (UInt64.toNat_inj.mp hzero)
        rw [UInt64.le_iff_toNat_le, hduration]
        split_ifs <;> omega
      lasts := hbudget
      computes := by
        have hproduct : phases.toNat * duration.toNat < 2 ^ 64 := by omega
        have htotal : phases.toNat * duration.toNat + 10000 < 2 ^ 64 := by
          omega
        rw [UInt64.toNat_add, UInt64.toNat_mul, UInt32.toNat_toUInt64,
          Nat.mod_eq_of_lt hproduct]
        exact Nat.mod_eq_of_lt htotal }

end Rates

/-- Whatever a peer offers, the arithmetic does not trap and an accepted plan
fits. -/
theorem isSome_accept_and_fits [F64.OrdersFinite F] (offer : SessionOffer F)
    (wanted : LoadRequest F) :
    (offer.accept wanted).isSome = true ∧
      ∀ s, offer.accept wanted = some (.ok s) →
        offer.Fits wanted s.granted := by
  refine ⟨isSome_accept offer wanted, fun s hs => ?_⟩
  obtain ⟨hacceptable, rfl⟩ := accept_eq_ok_iff.mp hs
  exact fits_grant hacceptable

/-- An offer of one object for ten minutes. -/
def roomyOffer : SessionOffer Float where
  protocol := externalProtocolVersion
  agentVersion := "0.1.0"
  sessionId := "session"
  objectSizes := [1024]
  tls := false
  certificateDer := none
  expiresInMs := 600000
  maxDurationMs := 60000
  maxRatePerS := 5000.0
  maxWorkers := 64

def modestRequest (phases : UInt32) : LoadRequest Float where
  ratePerS := 1000.0
  durationMs := 10000
  workers := 16
  phases := phases

theorem acceptable_modestRequest :
    roomyOffer.Acceptable (modestRequest 0) ∧
      roomyOffer.Acceptable (modestRequest 4) := by
  constructor <;>
    exact
      { protocol := rfl
        expires := by decide
        serves := rfl
        pinnable := rfl
        maxRate_finite := by decide
        maxRate_pos := by decide
        maxDuration := by decide
        maxWorkers := by decide
        rate_finite := by decide
        rate_pos := by decide
        lasts := by decide }

theorem isSome_accept_and_fits_modestRequest :
    roomyOffer.Fits (modestRequest 4)
      (roomyOffer.grant (modestRequest 4)).granted :=
  (isSome_accept_and_fits roomyOffer (modestRequest 4)).2 _
    (accept_of_acceptable acceptable_modestRequest.2)

end SessionOffer

end External

end Darcbench
