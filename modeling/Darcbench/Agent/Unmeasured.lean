import Darcbench.Agent.Watchdog

/-!
# Samples that nobody could measure

The guards judge a machine by what was measured.  A sample without a reading is
neither evidence for the condition that a guard looks for nor evidence against
it.
-/

namespace Darcbench

variable {F : Type} [F64 F]

namespace Watchdog

/-! ## Readings -/

def tempReading (tick : Tick F) : Option F :=
  tick.snapshot.cpuTempC

/-- The reading of a sample that the load guard takes when the ceiling is not
suspended.  A guard that is not armed on the host takes none. -/
def externalReading (host : HostView F) (tick : Tick F) : Option F :=
  (Watchdog.new host).loadReading (Supervision.new none) tick.snapshot

/-- Some guard takes a reading of the sample. -/
def isMeasured (host : HostView F) (tick : Tick F) : Bool :=
  (tempReading tick).isSome || (externalReading host tick).isSome

/-! ## What the readings demand -/

/-- The last readings of the temperature stop the run at this sample. -/
def Overheats (before : List (Tick F)) (tick : Tick F) : Prop :=
  (tempReading tick).isSome = true ∧
    Sustained thermalAbortSamples isHot
      ((before ++ [tick]).filterMap tempReading)

/-- The last readings of the external load stop the run at this sample. -/
def Overloads (host : HostView F) (before : List (Tick F)) (tick : Tick F) :
    Prop :=
  (externalReading host tick).isSome = true ∧
    Sustained externalLoadAbortSamples isHeavilyContended
      ((before ++ [tick]).filterMap (externalReading host))

/-- The last readings of the external load show contention at this sample. -/
def Contends (host : HostView F) (before : List (Tick F)) (tick : Tick F) :
    Prop :=
  (externalReading host tick).isSome = true ∧
    Sustained externalLoadWarnSamples isContended
      ((before ++ [tick]).filterMap (externalReading host))

/-- The contended stretch was noted before this sample. -/
def Announced (host : HostView F) (before : List (Tick F)) : Prop :=
  Sustained externalLoadWarnSamples isContended
    (before.filterMap (externalReading host))

/-- The samples, rather than the readings, stop the run at this sample. -/
def Stops (host : HostView F) (before : List (Tick F)) (tick : Tick F) :
    Prop :=
  Sustained thermalAbortSamples showsHeat (before ++ [tick]) ∨
    Overloads host before tick

/-! ## The tallies -/

/-- The tallies of the watchdog count the streaks up to now. -/
structure Tallied (host : HostView F) (cycleTarget : Option ℕ)
    (before : List (Tick F)) (s : Watchdog × Supervision) : Prop where
  hot_eq : s.1.consecutiveHot = streak showsHeat before
  contended_eq : s.1.consecutiveContended =
    streak isContended (before.filterMap (externalReading host))
  heavily_eq : s.1.consecutiveHeavilyContended =
    streak isHeavilyContended (before.filterMap (externalReading host))
  reported_iff : s.1.contentionReported = true ↔ Announced host before
  enforced_eq : s.1.externalLoadEnforced =
    (Watchdog.new host).externalLoadEnforced
  suspended_eq : s.2.loadCeilingSuspended = false
  cycleTarget_eq : s.2.cycleTarget = cycleTarget

/-- The watchdog of a run and its part of the handle at the start. -/
def start (host : HostView F) (cycleTarget : Option ℕ) :
    Watchdog × Supervision :=
  (Watchdog.new host, Supervision.new cycleTarget)

variable {host : HostView F} {cycleTarget : Option ℕ}
  {before : List (Tick F)} {s : Watchdog × Supervision} {tick : Tick F}
  {external : F}

theorem overloads_none (hload : externalReading host tick = none) :
    ¬ Overloads host before tick := by
  rw [Overloads, hload]
  exact fun h => Bool.false_ne_true h.1

theorem contends_none (hload : externalReading host tick = none) :
    ¬ Contends host before tick := by
  rw [Contends, hload]
  exact fun h => Bool.false_ne_true h.1

namespace Tallied

theorem start (host : HostView F) (cycleTarget : Option ℕ) :
    Tallied host cycleTarget [] (Watchdog.start host cycleTarget) where
  hot_eq := rfl
  contended_eq := rfl
  heavily_eq := rfl
  reported_iff := by
    rw [Announced, sustained_iff_le_streak]
    exact ⟨fun h => absurd h Bool.false_ne_true,
      fun h => absurd h (Nat.not_succ_le_zero _)⟩
  enforced_eq := rfl
  suspended_eq := rfl
  cycleTarget_eq := rfl

variable (h : Tallied host cycleTarget before s)

include h

theorem loadReading_eq (hot : ℕ) :
    ({ s.1 with consecutiveHot := hot } : Watchdog).loadReading
        s.2.takeContention tick.snapshot =
      externalReading host tick := by
  rw [externalReading, loadReading, loadReading]
  simp only [Supervision.takeContention, h.enforced_eq, h.suspended_eq]
  rfl

theorem overloads_iff (hload : externalReading host tick = some external) :
    Overloads host before tick ↔
      externalLoadAbortSamples ≤ tally (isHeavilyContended external)
        s.1.consecutiveHeavilyContended := by
  rw [Overloads, filterMap_concat_some hload, sustained_iff_le_streak,
    streak_concat, ← h.heavily_eq, hload]
  exact and_iff_right rfl

theorem contends_iff (hload : externalReading host tick = some external) :
    Contends host before tick ↔
      externalLoadWarnSamples ≤ tally (isContended external)
        s.1.consecutiveContended := by
  rw [Contends, filterMap_concat_some hload, sustained_iff_le_streak,
    streak_concat, ← h.contended_eq, hload]
  exact and_iff_right rfl

theorem announced_iff : Announced host before ↔
    externalLoadWarnSamples ≤ s.1.consecutiveContended := by
  rw [Announced, sustained_iff_le_streak, h.contended_eq]

/-- The tallies after a sample without a reading of the external load. -/
theorem concat_none (hload : externalReading host tick = none)
    (contention : Option Warning) :
    Tallied host cycleTarget (before ++ [tick])
      ({ s.1 with consecutiveHot := streak showsHeat (before ++ [tick]) },
        { s.2 with contention := contention }) where
  hot_eq := rfl
  contended_eq := by rw [filterMap_concat_none hload]; exact h.contended_eq
  heavily_eq := by rw [filterMap_concat_none hload]; exact h.heavily_eq
  reported_iff := by
    rw [Announced, filterMap_concat_none hload]
    exact h.reported_iff
  enforced_eq := h.enforced_eq
  suspended_eq := h.suspended_eq
  cycleTarget_eq := h.cycleTarget_eq

/-- The tallies after a reading of the external load. -/
theorem concat_some (hload : externalReading host tick = some external)
    {contended : ℕ}
    (hcontended : contended =
      tally (isContended external) s.1.consecutiveContended)
    {reported : Bool}
    (hreported : reported = true ↔ externalLoadWarnSamples ≤ contended)
    (contention : Option Warning) :
    Tallied host cycleTarget (before ++ [tick])
      ({ s.1 with
          consecutiveHot := streak showsHeat (before ++ [tick])
          consecutiveHeavilyContended := tally (isHeavilyContended external)
            s.1.consecutiveHeavilyContended
          consecutiveContended := contended
          contentionReported := reported },
        { s.2 with contention := contention }) where
  hot_eq := rfl
  contended_eq := by
    rw [filterMap_concat_some hload]
    exact hcontended.trans ((congrArg _ h.contended_eq).trans
      (streak_concat _ _ _).symm)
  heavily_eq := by
    rw [filterMap_concat_some hload]
    exact (congrArg _ h.heavily_eq).trans (streak_concat _ _ _).symm
  reported_iff := by
    have hlater : contended = streak isContended
        (before.filterMap (externalReading host) ++ [external]) := by
      rw [streak_concat, ← h.contended_eq]
      exact hcontended
    rw [Announced, filterMap_concat_some hload, sustained_iff_le_streak,
      ← hlater]
    exact hreported
  enforced_eq := h.enforced_eq
  suspended_eq := h.suspended_eq
  cycleTarget_eq := h.cycleTarget_eq

end Tallied

/-! ## Histories -/

/-- The readings do not stop the run. -/
def Undisturbed (host : HostView F) (ticks : List (Tick F)) : Prop :=
  ∀ before tick after, ticks = before ++ tick :: after →
    ¬ (Overheats before tick ∨ Overloads host before tick)

/-- When the temperature is the first reason to stop the run, no sample without
a temperature lies in the hot stretch. -/
def Unbroken (host : HostView F) (ticks : List (Tick F)) : Prop :=
  ∀ before tick after, ticks = before ++ tick :: after →
    Undisturbed host before → Overheats before tick →
      ¬ Overloads host before tick →
        Sustained thermalAbortSamples showsHeat (before ++ [tick])

theorem isMeasured_eq_false_iff : isMeasured host tick = false ↔
    tempReading tick = none ∧ externalReading host tick = none := by
  rw [isMeasured, Bool.or_eq_false_iff, Option.isSome_eq_false_iff,
    Option.isSome_eq_false_iff, Option.isNone_iff_eq_none,
    Option.isNone_iff_eq_none]

theorem not_showsHeat (htemp : tempReading tick = none) :
    ¬ showsHeat tick = true := by
  have hnone : tick.snapshot.cpuTempC = none := htemp
  rw [showsHeat, hnone]
  exact Bool.false_ne_true

/-- Samples that stop the run carry readings that do. -/
theorem Stops.due (h : Stops host before tick) :
    Overheats before tick ∨ Overloads host before tick := by
  rcases h with hhot | hover
  · have hlong := sustained_iff_le_streak.mp hhot
    have htick : showsHeat tick = true := by
      by_contra hcool
      rw [streak_concat_neg hcool] at hlong
      exact Nat.not_succ_le_zero _ hlong
    have hreading : ∀ t : Tick F, showsHeat t = true →
        ∃ temp, tempReading t = some temp ∧ isHot temp = true := by
      intro t ht
      exact (Option.any_eq_true _ _).mp ht
    left
    refine ⟨?_, ?_⟩
    · obtain ⟨temp, htemp, -⟩ := hreading tick htick
      rw [htemp]
      rfl
    · exact sustained_iff_le_streak.mpr
        (hlong.trans (streak_le_streak_filterMap hreading _))
  · exact .inr hover

theorem Unbroken.of_append {after : List (Tick F)}
    (h : Unbroken host (before ++ after)) :
    Unbroken host before := by
  rintro earlier t later rfl
  exact h earlier t (later ++ after) (by simp)

theorem Undisturbed.concat (h : Undisturbed host before)
    (hdue : ¬ (Overheats before tick ∨ Overloads host before tick)) :
    Undisturbed host (before ++ [tick]) := by
  rintro earlier t later hsplit
  rcases concat_eq_append_cons hsplit with ⟨rfl, rfl⟩ | ⟨rest, rfl⟩
  · exact hdue
  · exact h earlier t rest rfl

/-- In an unbroken history the samples and the readings agree. -/
theorem Unbroken.stops_iff (h : Unbroken host (before ++ [tick]))
    (hbefore : Undisturbed host before) :
    Stops host before tick ↔
      Overheats before tick ∨ Overloads host before tick := by
  constructor
  · exact Stops.due
  · rintro hdue
    by_cases hover : Overloads host before tick
    · exact .inr hover
    · exact .inl (h before tick [] rfl hbefore (hdue.resolve_right hover) hover)

/-! ## What the watchdog answers -/

/-- What a sample led to. -/
inductive Answer where
  /-- The run is stopped. -/
  | abort
  /-- Contention is noted and announced. -/
  | degrade
  /-- Contention is noted. -/
  | note
  | quiet
  deriving DecidableEq

/-- What the outcome of a check is, when the slot was empty before. -/
def Answer.of : Option WatchdogVerdict × Watchdog × Supervision → Answer
  | (some (.abort _), _) => .abort
  | (some (.degrade _), _) => .degrade
  | (none, _, handle) => if handle.contention.isSome then .note else .quiet

/-- The answer to a sample at which the run stops or does not, and which does or
does not end a contended stretch that was or was not announced before. -/
structure Answer.Decided (stops contends announced : Prop) (a : Answer) :
    Prop where
  abort_iff : a = .abort ↔ stops
  noted_iff : a ≠ .abort → (a = .degrade ∨ a = .note ↔ contends)
  degrade_iff : a ≠ .abort → (a = .degrade ↔ contends ∧ ¬ announced)

namespace Answer.Decided

variable {stops contends announced : Prop}

theorem abort (hstops : stops) :
    Decided stops contends announced .abort where
  abort_iff := iff_of_true rfl hstops
  noted_iff h := absurd rfl h
  degrade_iff h := absurd rfl h

theorem quiet (hstops : ¬ stops) (hcontends : ¬ contends) :
    Decided stops contends announced .quiet where
  abort_iff := iff_of_false (by decide) hstops
  noted_iff _ := iff_of_false (by decide) hcontends
  degrade_iff _ := iff_of_false (by decide) fun h => hcontends h.1

theorem note (hstops : ¬ stops) (hcontends : contends)
    (hannounced : announced) :
    Decided stops contends announced .note where
  abort_iff := iff_of_false (by decide) hstops
  noted_iff _ := iff_of_true (by decide) hcontends
  degrade_iff _ := iff_of_false (by decide) fun h => h.2 hannounced

theorem degrade (hstops : ¬ stops) (hcontends : contends)
    (hannounced : ¬ announced) :
    Decided stops contends announced .degrade where
  abort_iff := iff_of_false (by decide) hstops
  noted_iff _ := iff_of_true (by decide) hcontends
  degrade_iff _ := iff_of_true rfl ⟨hcontends, hannounced⟩

/-- There is one answer. -/
theorem eq {a b : Answer} (ha : Decided stops contends announced a)
    (hb : Decided stops contends announced b) :
    a = b := by
  obtain ⟨ha, han, had⟩ := ha
  obtain ⟨hb, hbn, hbd⟩ := hb
  cases a <;> cases b <;> simp_all

end Answer.Decided

variable [F64.Display F]

/-- What the watchdog and its handle become, unless the run is stopped. -/
def oversee (s : Watchdog × Supervision) (tick : Tick F) :
    Option (Watchdog × Supervision) :=
  match s.1.check s.2 tick with
  | (some (.abort _), _) => none
  | (_, next) => some next

/-- What a sample leads to.  Contention is noted when it is found in a slot that
was cleared before. -/
def answer (s : Watchdog × Supervision) (tick : Tick F) : Answer :=
  .of (s.1.check s.2.takeContention tick)

/-- What the samples lead to, one after the other, until the run is stopped. -/
def answers (s : Watchdog × Supervision) :
    List (Tick F) → List (Tick F × Answer)
  | [] => []
  | tick :: rest =>
      (tick, answer s tick) ::
        match oversee s tick with
        | some next => answers next rest
        | none => []

theorem oversee_of_check {e : Option WatchdogVerdict × Watchdog × Supervision}
    (he : s.1.check s.2.takeContention tick = e) :
    oversee s tick =
      match e.1 with
      | some (.abort _) => none
      | _ => some (e.2.1,
          { s.2 with contention := e.2.2.contention <|> s.2.contention }) := by
  rw [oversee, check_eq, he]
  obtain ⟨verdict, watchdog, handle⟩ := e
  rcases verdict with _ | _ | _ <;> rfl

/-- The step of the watchdog: it answers by its tallies, and counts on. -/
theorem Tallied.step (h : Tallied host cycleTarget before s)
    (hceiling : tick.elapsed ≤
      (Supervision.new cycleTarget).hardRuntimeCeiling) :
    (answer s tick).Decided (Stops host before tick)
        (Contends host before tick) (Announced host before) ∧
      (Stops host before tick ∧ oversee s tick = none ∨
        ¬ Stops host before tick ∧ ∃ next, oversee s tick = some next ∧
          Tallied host cycleTarget (before ++ [tick]) next) := by
  have hle : tick.elapsed ≤ s.2.takeContention.hardRuntimeCeiling := by
    rw [Supervision.hardRuntimeCeiling, Supervision.takeContention,
      h.cycleTarget_eq]
    exact hceiling
  have hhot : streak showsHeat (before ++ [tick]) =
      tally (showsHeat tick) s.1.consecutiveHot := by
    rw [streak_concat, h.hot_eq]
  obtain ⟨hlong, temp, he⟩ | ⟨hshort, hcheck⟩ := check_of_le hle hhot
  · have hstops : Stops host before tick :=
      .inl (sustained_iff_le_streak.mpr hlong)
    rw [answer, he, oversee_of_check he]
    exact ⟨.abort hstops, .inl ⟨hstops, rfl⟩⟩
  have hcool : ¬ Sustained thermalAbortSamples showsHeat
      (before ++ [tick]) := by
    rw [sustained_iff_le_streak]
    exact Nat.not_le.mpr hshort
  have hreading : ({ s.1 with
      consecutiveHot := streak showsHeat (before ++ [tick]) } :
        Watchdog).loadReading s.2.takeContention tick.snapshot =
      externalReading host tick :=
    h.loadReading_eq (streak showsHeat (before ++ [tick]))
  cases hload : externalReading host tick with
  | none =>
      obtain ⟨hnone, hhandle, hkept⟩ :=
        checkExternalLoad_of_none (hreading.trans hload)
      have he : s.1.check s.2.takeContention tick =
          (none,
            { s.1 with
              consecutiveHot := streak showsHeat (before ++ [tick]) },
            s.2.takeContention) := by
        rw [hcheck]
        exact Prod.ext hnone (Prod.ext (hkept h.suspended_eq) hhandle)
      have hstops : ¬ Stops host before tick :=
        not_or.mpr ⟨hcool, overloads_none hload⟩
      rw [answer, he, oversee_of_check he]
      exact ⟨.quiet hstops (contends_none hload),
        .inr ⟨hstops, _, rfl, h.concat_none hload _⟩⟩
  | some external =>
      have hover := h.overloads_iff hload
      have hcontends := h.contends_iff hload
      have hstops : tally (isHeavilyContended external)
          s.1.consecutiveHeavilyContended < externalLoadAbortSamples →
            ¬ Stops host before tick := fun hlt =>
        not_or.mpr ⟨hcool, fun h => absurd (hover.mp h) (Nat.not_le.mpr hlt)⟩
      obtain ⟨hmany, he⟩ | ⟨hlt, hquiet, he⟩ | ⟨hlt, hloud, hfew, he⟩ |
          ⟨hlt, hloud, hmany, hreported, he⟩ |
          ⟨hlt, hloud, hmany, hreported, he⟩ :=
        checkExternalLoad_of_some (hreading.trans hload) rfl
      all_goals
        rw [answer, hcheck, he, oversee_of_check (hcheck.trans he)]
      · exact ⟨.abort (.inr (hover.mpr hmany)),
          .inl ⟨.inr (hover.mpr hmany), rfl⟩⟩
      · have hzero : tally (isContended external)
            s.1.consecutiveContended = 0 := by
          rw [tally, hquiet]
          rfl
        have hfew : ¬ externalLoadWarnSamples ≤ 0 := by decide
        rw [hzero] at hcontends
        exact ⟨.quiet (hstops hlt) fun h => hfew (hcontends.mp h),
          .inr ⟨hstops hlt, _, rfl, h.concat_some hload hzero.symm
            (iff_of_false Bool.false_ne_true hfew) _⟩⟩
      all_goals
        have hsucc : tally (isContended external)
            s.1.consecutiveContended = s.1.consecutiveContended + 1 :=
          if_pos hloud
        rw [hsucc] at hcontends
      · have hshort : ¬ externalLoadWarnSamples ≤
            s.1.consecutiveContended + 1 :=
          Nat.not_le.mpr hfew
        have hunreported : ¬ s.1.contentionReported = true := by
          rw [h.reported_iff, h.announced_iff]
          exact fun hle => hshort (Nat.le_succ_of_le hle)
        exact ⟨.quiet (hstops hlt) fun h => hshort (hcontends.mp h),
          .inr ⟨hstops hlt, _, rfl, h.concat_some hload hsucc.symm
            (iff_of_false hunreported hshort) _⟩⟩
      · exact ⟨.note (hstops hlt) (hcontends.mpr hmany)
            (h.reported_iff.mp hreported),
          .inr ⟨hstops hlt, _, rfl, h.concat_some hload hsucc.symm
            (iff_of_true hreported hmany) _⟩⟩
      · have hunannounced : ¬ Announced host before := by
          rw [← h.reported_iff, hreported]
          exact Bool.false_ne_true
        exact ⟨.degrade (hstops hlt) (hcontends.mpr hmany) hunannounced,
          .inr ⟨hstops hlt, _, rfl, h.concat_some hload hsucc.symm
            (iff_of_true rfl hmany) _⟩⟩

/-! ## Whole runs -/

/-- The watchdog and its handle after some samples, unless the run was
stopped. -/
def watch (host : HostView F) (cycleTarget : Option ℕ)
    (ticks : List (Tick F)) : Option (Watchdog × Supervision) :=
  ticks.foldlM oversee (start host cycleTarget)

/-- The answers to the samples that carry a reading. -/
def measuredAnswers (host : HostView F) (cycleTarget : Option ℕ)
    (ticks : List (Tick F)) : List (Tick F × Answer) :=
  (answers (start host cycleTarget) ticks).filter fun a => isMeasured host a.1

/-- No sample lies above the runtime ceiling. -/
def BelowCeiling (cycleTarget : Option ℕ) (ticks : List (Tick F)) : Prop :=
  ∀ tick ∈ ticks,
    tick.elapsed ≤ (Supervision.new cycleTarget).hardRuntimeCeiling

/-- Every answer is decided by the readings up to its sample. -/
def JudgedByReadings (host : HostView F) (cycleTarget : Option ℕ)
    (ticks : List (Tick F)) : Prop :=
  ∀ before tick after s, ticks = before ++ tick :: after →
    watch host cycleTarget before = some s →
      (answer s tick).Decided
        (Overheats before tick ∨ Overloads host before tick)
        (Contends host before tick) (Announced host before)

/-- The samples that carry no reading change no other answer. -/
def UnmeasuredNeutral (host : HostView F) (cycleTarget : Option ℕ)
    (ticks : List (Tick F)) : Prop :=
  ∀ fewer, Inserted (isMeasured host) fewer ticks →
    measuredAnswers host cycleTarget ticks =
      measuredAnswers host cycleTarget fewer

theorem watch_concat (before : List (Tick F)) (tick : Tick F) :
    watch host cycleTarget (before ++ [tick]) =
      (watch host cycleTarget before).bind fun s => oversee s tick := by
  rw [watch, List.foldlM_append]
  cases h : before.foldlM oversee (start host cycleTarget) with
  | none => simp [watch, h]
  | some s => simp [watch, h]

theorem answers_concat (s : Watchdog × Supervision)
    (before : List (Tick F)) (tick : Tick F) :
    answers s (before ++ [tick]) =
      answers s before ++
        ((before.foldlM oversee s).map fun t =>
          (tick, answer t tick)).toList := by
  induction before generalizing s with
  | nil =>
      simp only [List.nil_append, answers]
      cases oversee s tick <;> rfl
  | cons first rest ih =>
      rw [List.cons_append, answers, answers, List.foldlM_cons]
      cases h : oversee s first with
      | none => rfl
      | some t => simp [ih]

theorem measuredAnswers_concat (before : List (Tick F)) (tick : Tick F) :
    measuredAnswers host cycleTarget (before ++ [tick]) =
      measuredAnswers host cycleTarget before ++
        (((watch host cycleTarget before).map fun t =>
          (tick, answer t tick)).toList.filter
            fun a => isMeasured host a.1) := by
  rw [measuredAnswers, answers_concat, List.filter_append]
  rfl

omit [F64 F] [F64.Display F] in
theorem BelowCeiling.of_concat
    (h : BelowCeiling cycleTarget (before ++ [tick])) :
    BelowCeiling cycleTarget before ∧
      tick.elapsed ≤ (Supervision.new cycleTarget).hardRuntimeCeiling :=
  ⟨fun t ht => h t (List.mem_append_left _ ht),
    h tick (List.mem_append_right _ List.mem_cons_self)⟩

/-- The run lemma of the tallies. -/
theorem tallied_watch (hbelow : BelowCeiling cycleTarget before)
    (hwatch : watch host cycleTarget before = some s) :
    Tallied host cycleTarget before s := by
  induction before using List.reverseRecOn generalizing s with
  | nil =>
      obtain rfl := Option.some.inj hwatch
      exact Tallied.start host cycleTarget
  | append_singleton before tick ih =>
      obtain ⟨hbelow, hceiling⟩ := hbelow.of_concat
      rw [watch_concat, Option.bind_eq_some_iff] at hwatch
      obtain ⟨t, ht, hnext⟩ := hwatch
      rcases ((ih hbelow ht).step hceiling).2 with
        ⟨-, hnone⟩ | ⟨-, next, hsome, htallied⟩
      · exact absurd (hnone.symm.trans hnext) (by simp)
      · exact Option.some.inj (hsome.symm.trans hnext) ▸ htallied

/-- Readings that do not stop the run let the watchdog go on. -/
theorem Undisturbed.watch (hbelow : BelowCeiling cycleTarget before)
    (h : Undisturbed host before) :
    ∃ s, watch host cycleTarget before = some s := by
  induction before using List.reverseRecOn with
  | nil => exact ⟨_, rfl⟩
  | append_singleton before tick ih =>
      obtain ⟨hbelow, hceiling⟩ := hbelow.of_concat
      obtain ⟨s, hs⟩ := ih hbelow fun earlier t later hsplit =>
        h earlier t (later ++ [tick]) (by simp [hsplit])
      rw [watch_concat, hs]
      rcases ((tallied_watch hbelow hs).step hceiling).2 with
        ⟨hstops, -⟩ | ⟨-, next, hnext, -⟩
      · exact absurd hstops.due (h before tick [] rfl)
      · exact ⟨next, hnext⟩

/-- In an unbroken history the watchdog stops the run as soon as the readings
do. -/
theorem Unbroken.undisturbed (hbelow : BelowCeiling cycleTarget before)
    (h : Unbroken host before) (hwatch : watch host cycleTarget before = some s) :
    Undisturbed host before := by
  induction before using List.reverseRecOn generalizing s with
  | nil =>
      rintro earlier t later hsplit
      exact absurd hsplit (by simp)
  | append_singleton before tick ih =>
      obtain ⟨hbelow, hceiling⟩ := hbelow.of_concat
      rw [watch_concat, Option.bind_eq_some_iff] at hwatch
      obtain ⟨t, ht, hnext⟩ := hwatch
      have hbefore := ih hbelow h.of_append ht
      apply hbefore.concat
      rw [← h.stops_iff hbefore]
      rcases ((tallied_watch hbelow ht).step hceiling).2 with
        ⟨-, hnone⟩ | ⟨hgoes, -⟩
      · exact absurd (hnone.symm.trans hnext) (by simp)
      · exact hgoes

/-- The watchdog judges by the readings exactly in an unbroken history. -/
theorem judgedByReadings_iff {ticks : List (Tick F)}
    (hbelow : BelowCeiling cycleTarget ticks) :
    JudgedByReadings host cycleTarget ticks ↔ Unbroken host ticks := by
  have hsplit : ∀ before tick after, ticks = before ++ tick :: after →
      BelowCeiling cycleTarget (before ++ [tick]) := by
    rintro before tick after rfl t ht
    rw [List.append_cons] at hbelow
    exact hbelow t (List.mem_append_left _ ht)
  constructor
  · intro hjudged before tick after heq hbefore hhot hload
    obtain ⟨hbelow, hceiling⟩ := (hsplit before tick after heq).of_concat
    obtain ⟨s, hs⟩ := hbefore.watch hbelow
    have hdecided := hjudged before tick after s heq hs
    have hstep := ((tallied_watch hbelow hs).step hceiling).1
    have hstops : Stops host before tick :=
      hstep.abort_iff.mp (hdecided.abort_iff.mpr (.inl hhot))
    exact hstops.resolve_right hload
  · intro h before tick after s heq hwatch
    obtain ⟨hbelow, hceiling⟩ := (hsplit before tick after heq).of_concat
    have hunbroken : Unbroken host (before ++ [tick]) := by
      rw [heq, List.append_cons] at h
      exact h.of_append
    have hbefore := hunbroken.of_append.undisturbed hbelow hwatch
    rw [← hunbroken.stops_iff hbefore]
    exact ((tallied_watch hbelow hwatch).step hceiling).1

section Insertion

variable {fewer more : List (Tick F)}
  (hins : Inserted (isMeasured host) fewer more)

include hins

omit [F64.Display F] in
theorem overheats_iff_of_inserted :
    Overheats more tick ↔ Overheats fewer tick := by
  have htemps : more.filterMap tempReading = fewer.filterMap tempReading :=
    hins.filterMap_eq fun t ht => (isMeasured_eq_false_iff.mp ht).1
  rw [Overheats, Overheats, List.filterMap_append, htemps,
    ← List.filterMap_append]

omit [F64.Display F] in
theorem externalReadings_eq_of_inserted :
    more.filterMap (externalReading host) =
      fewer.filterMap (externalReading host) :=
  hins.filterMap_eq fun _ ht => (isMeasured_eq_false_iff.mp ht).2

omit [F64.Display F] in
/-- A sample stops the longer history when it stops the shorter one and the
longer one is unbroken. -/
theorem stops_iff_of_inserted (h : Unbroken host (more ++ [tick]))
    (hbefore : Undisturbed host more) :
    Stops host more tick ↔ Stops host fewer tick := by
  have hloads := externalReadings_eq_of_inserted hins
  have hover : Overloads host more tick ↔ Overloads host fewer tick := by
    rw [Overloads, Overloads, List.filterMap_append, hloads,
      ← List.filterMap_append]
  constructor
  · rintro (hhot | hload)
    · left
      have hshorter : streak showsHeat (more ++ [tick]) ≤
          streak showsHeat (fewer ++ [tick]) :=
        (hins.keep tick).streak_le fun t ht =>
          not_showsHeat (isMeasured_eq_false_iff.mp ht).1
      rw [sustained_iff_le_streak] at hhot ⊢
      exact hhot.trans hshorter
    · exact .inr (hover.mp hload)
  · intro hstops
    rw [h.stops_iff hbefore, overheats_iff_of_inserted hins, hover]
    exact hstops.due

/-- Samples without a reading are neutral in an unbroken history. -/
theorem measuredAnswers_eq_of_inserted
    (hbelow : BelowCeiling cycleTarget more) (h : Unbroken host more) :
    ((watch host cycleTarget more).isSome ↔
        (watch host cycleTarget fewer).isSome) ∧
      measuredAnswers host cycleTarget more =
        measuredAnswers host cycleTarget fewer := by
  induction hins with
  | nil => exact ⟨Iff.rfl, rfl⟩
  | @keep fewer more hins tick ih =>
      obtain ⟨hbelow, hceiling⟩ := hbelow.of_concat
      obtain ⟨hsome, hanswers⟩ := ih hbelow h.of_append
      rw [measuredAnswers_concat, measuredAnswers_concat, watch_concat,
        watch_concat, hanswers]
      cases hmore : watch host cycleTarget more with
      | none =>
          rw [hmore] at hsome
          have hfewer := Option.not_isSome_iff_eq_none.mp
            (hsome.not.mp Bool.false_ne_true)
          rw [hfewer]
          exact ⟨Iff.rfl, rfl⟩
      | some s =>
          rw [hmore] at hsome
          obtain ⟨t, hfewer⟩ := Option.isSome_iff_exists.mp (hsome.mp rfl)
          have hbefore := h.of_append.undisturbed hbelow hmore
          have hstops := stops_iff_of_inserted hins h hbefore
          have hloads := externalReadings_eq_of_inserted hins
          have hcontends : Contends host more tick ↔
              Contends host fewer tick := by
            rw [Contends, Contends, List.filterMap_append, hloads,
              ← List.filterMap_append]
          have hannounced : Announced host more ↔ Announced host fewer := by
            rw [Announced, Announced, hloads]
          have hbelow' : BelowCeiling cycleTarget fewer := fun u hu =>
            hbelow u (hins.subset hu)
          obtain ⟨hs, hnext⟩ := (tallied_watch hbelow hmore).step hceiling
          obtain ⟨ht, hnext'⟩ := (tallied_watch hbelow' hfewer).step hceiling
          rw [hstops, hcontends, hannounced] at hs
          rw [hstops] at hnext
          rw [hfewer, Option.bind_some, Option.bind_some, Option.map_some,
            Option.map_some, hs.eq ht]
          refine ⟨?_, rfl⟩
          rcases hnext with ⟨hstop, hnone⟩ | ⟨hgo, next, hnext, -⟩
          · rw [hnone, (hnext'.resolve_right fun h => h.1 hstop).2]
          · obtain ⟨-, next', hnext', -⟩ :=
              hnext'.resolve_left fun h => hgo h.1
            rw [hnext, hnext']
            exact iff_of_true rfl rfl
  | @insert fewer more hins tick hblank ih =>
      obtain ⟨hbelow, hceiling⟩ := hbelow.of_concat
      obtain ⟨hsome, hanswers⟩ := ih hbelow h.of_append
      have hreadings := isMeasured_eq_false_iff.mp hblank
      rw [measuredAnswers_concat, watch_concat, hanswers]
      cases hmore : watch host cycleTarget more with
      | none =>
          rw [hmore] at hsome
          exact ⟨hsome, List.append_nil _⟩
      | some s =>
          rw [hmore] at hsome
          have hbefore := h.of_append.undisturbed hbelow hmore
          have hgo : ¬ Stops host more tick := by
            rw [h.stops_iff hbefore, not_or, Overheats, hreadings.1]
            exact ⟨fun hhot => Bool.false_ne_true hhot.1,
              overloads_none hreadings.2⟩
          obtain ⟨-, hnext⟩ := (tallied_watch hbelow hmore).step hceiling
          obtain ⟨-, next, hnext, -⟩ :=
            hnext.resolve_left fun h => hgo h.1
          rw [Option.bind_some, hnext, Option.map_some, Option.toList_some,
            List.filter_singleton, hblank]
          exact ⟨iff_of_true rfl (hsome.mp rfl), List.append_nil _⟩

end Insertion

/-- Samples that nobody could measure are neutral for the guards exactly when
no sample without a temperature breaks the hot stretch that is the first reason
to stop the run. -/
theorem unmeasuredNeutral_iff (host : HostView F) (cycleTarget : Option ℕ)
    (ticks : List (Tick F)) (hbelow : BelowCeiling cycleTarget ticks) :
    JudgedByReadings host cycleTarget ticks ∧
        UnmeasuredNeutral host cycleTarget ticks ↔
      Unbroken host ticks := by
  rw [judgedByReadings_iff hbelow]
  constructor
  · exact And.left
  · intro h
    exact ⟨h, fun fewer hins =>
      (measuredAnswers_eq_of_inserted hins hbelow h).2⟩

/-! ## A temperature that is not read once -/

/-- A machine on which every guard is armed. -/
def bareMetal : HostView Float where
  scope := .bareMetal
  cgroupCpuLimit := none
  logicalCpus := 8

/-- A sample of an idle machine in some second of the run. -/
def idleTick (second : ℕ) (temp : Option Float) : Tick Float where
  elapsed := Supervision.seconds second
  snapshot := ⟨temp, 0.0, false⟩

/-- The first samples of a machine that is hot all the time. -/
def hotTicks : List (Tick Float) :=
  (List.range 29).map fun second => idleTick second (some 101.0)

def unreadTick : Tick Float :=
  idleTick 29 none

def lastHotTick : Tick Float :=
  idleTick 30 (some 101.0)

/-- The hot samples, with one between them that has no temperature. -/
def gappedTicks : List (Tick Float) :=
  hotTicks ++ [unreadTick] ++ [lastHotTick]

theorem belowCeiling_gappedTicks : BelowCeiling none gappedTicks := by
  have hsecond : ∀ second < 31, ∀ temp,
      (idleTick second temp).elapsed ≤
        (Supervision.new none).hardRuntimeCeiling := by
    intro second hlt temp
    change Supervision.seconds second ≤ Supervision.seconds 7200
    rw [Supervision.seconds, Supervision.seconds]
    omega
  intro tick htick
  rw [gappedTicks, List.append_assoc, List.mem_append, hotTicks,
    List.mem_map] at htick
  rcases htick with ⟨second, hmem, rfl⟩ | htick
  · exact hsecond second (by have := List.mem_range.mp hmem; omega) _
  · rcases List.mem_pair.mp htick with rfl | rfl
    · exact hsecond 29 (by decide) _
    · exact hsecond 30 (by decide) _

theorem undisturbed_unreadTick :
    Undisturbed bareMetal (hotTicks ++ [unreadTick]) := by
  intro before tick after hsplit hdue
  have hheard : before ++ [tick] <+: hotTicks ++ [unreadTick] :=
    ⟨after, (hsplit.trans (List.append_cons before tick after)).symm⟩
  rcases hdue with ⟨-, hhot⟩ | ⟨-, hload⟩
  · have hlong := (sustained_iff_le_streak.mp hhot).trans
      ((streak_le_length _ _).trans (hheard.filterMap tempReading).length_le)
    exact absurd hlong (by decide)
  · have hlong := (sustained_iff_le_streak.mp hload).trans
      ((streak_le_length _ _).trans
        ((List.length_filterMap_le _ _).trans hheard.length_le))
    exact absurd hlong (by decide)

theorem overheats_lastHotTick :
    Overheats (hotTicks ++ [unreadTick]) lastHotTick := by
  have htemps : gappedTicks.filterMap tempReading =
      List.replicate 30 101.0 :=
    rfl
  have hhot : isHot (101.0 : Float) = true := by decide
  refine ⟨rfl, _, List.suffix_rfl, ?_, ?_⟩
  · exact congrArg List.length htemps
  · intro temp hmem
    rw [← gappedTicks, htemps] at hmem
    rwa [List.eq_of_mem_replicate hmem]

theorem not_overloads_lastHotTick :
    ¬ Overloads bareMetal (hotTicks ++ [unreadTick]) lastHotTick := by
  rintro ⟨-, hload⟩
  have hlong := (sustained_iff_le_streak.mp hload).trans
    ((streak_le_length _ _).trans (List.length_filterMap_le _ _))
  exact absurd hlong (by decide)

theorem unmeasuredNeutral_iff_hotTicks :
    JudgedByReadings bareMetal none hotTicks ∧
        UnmeasuredNeutral bareMetal none hotTicks ↔
      Unbroken bareMetal hotTicks :=
  unmeasuredNeutral_iff bareMetal none hotTicks fun tick htick =>
    belowCeiling_gappedTicks tick
      (List.mem_append_left _ (List.mem_append_left _ htick))

theorem not_unmeasuredNeutral_gappedTicks :
    ¬ (JudgedByReadings bareMetal none gappedTicks ∧
        UnmeasuredNeutral bareMetal none gappedTicks) := by
  rw [judgedByReadings_iff belowCeiling_gappedTicks]
  rintro ⟨hunbroken, -⟩
  have hlong := sustained_iff_le_streak.mp
    (hunbroken (hotTicks ++ [unreadTick]) lastHotTick [] rfl
      undisturbed_unreadTick overheats_lastHotTick not_overloads_lastHotTick)
  have hbroken : ¬ showsHeat unreadTick = true := Bool.false_ne_true
  rw [streak_concat, streak_concat_neg hbroken, tally] at hlong
  split at hlong
  · exact absurd hlong (by decide)
  · exact absurd hlong (by decide)

end Watchdog

end Darcbench
