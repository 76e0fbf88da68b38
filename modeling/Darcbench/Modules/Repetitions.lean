import Darcbench.Agent.ModuleLoop
import Darcbench.Protocol.Display

/-!
# The repetition loop

Every module measures a metric in repetitions, some of them to warm up.  All of
them are kept as samples, and only those after the warm-up are measured.
-/

namespace Darcbench

variable {F : Type} [F64 F] [F64.Display F]

/-- Least duration of a repetition that can be trusted, in milliseconds. -/
def minRepMs : F := 20.0

/-- What the repetition loop produced for one metric. -/
structure RepOutcome (F : Type) where
  /-- Every repetition. -/
  samples : List (MetricSample F)
  /-- The values of the repetitions after the warm-up. -/
  measured : List F
  warnings : List Warning

/-- The warning about a repetition below the floor. -/
def shortRepetition (metricKey : String) (durationMs : F) : Warning where
  code := .validationFailed
  message :=
    let shown := F64.Display.fixed 1 durationMs
    s!"repetition of `{metricKey}` completed in {shown} ms, below the 20 ms " ++
      "floor; calibration failed to reach a trustworthy duration"
  metricKey := some metricKey

/-- A repetition as a sample, from its value and its duration. -/
def repSample (warmupReps : ℕ) (runRep : ℕ → F × F) (rep : ℕ) :
    MetricSample F where
  rep := rep
  value := (runRep rep).1
  durationMs := (runRep rep).2
  warmup := rep < warmupReps

/-- One turn of the loop. -/
def timeRep (warmupReps : ℕ) (metricKey : String) (isCancelled : ℕ → Bool)
    (runRep : ℕ → F × F) (outcome : RepOutcome F) (rep : ℕ) :
    Except ModuleError (RepOutcome F) :=
  if isCancelled rep then
    .error .cancelled
  else
    let sample := repSample warmupReps runRep rep
    let isShort := !sample.warmup && decide (sample.durationMs < minRepMs)
    .ok
      { samples := outcome.samples ++ [sample]
        measured :=
          if sample.warmup then outcome.measured
          else outcome.measured ++ [sample.value]
        warnings :=
          if isShort then
            outcome.warnings ++ [shortRepetition metricKey sample.durationMs]
          else outcome.warnings }

/-- Runs the repetitions for one metric.  What each of them returns and whether
the run is cancelled before it are given by its number. -/
def timeReps (warmupReps measuredReps : ℕ) (metricKey : String)
    (isCancelled : ℕ → Bool) (runRep : ℕ → F × F) :
    Except ModuleError (RepOutcome F) :=
  (List.range (warmupReps + measuredReps)).foldlM
    (timeRep warmupReps metricKey isCancelled runRep) ⟨[], [], []⟩

/-- The values of the samples that are not of the warm-up. -/
def measuredValues (samples : List (MetricSample F)) : List F :=
  (samples.filter fun sample => !sample.warmup).map (·.value)

omit [F64 F] [F64.Display F] in
theorem measuredValues_append (samples more : List (MetricSample F)) :
    measuredValues (samples ++ more) =
      measuredValues samples ++ measuredValues more := by
  rw [measuredValues, List.filter_append, List.map_append, measuredValues,
    measuredValues]

/-- A loop that comes to its end has kept all repetitions and measured those
after the warm-up. -/
structure RepOutcome.Keeps (warmupReps : ℕ) (runRep : ℕ → F × F) (reps : ℕ)
    (outcome : RepOutcome F) : Prop where
  samples : outcome.samples =
    (List.range reps).map (repSample warmupReps runRep)
  measured : outcome.measured = measuredValues outcome.samples

section

variable {warmupReps : ℕ} {metricKey : String} {isCancelled : ℕ → Bool}
  {runRep : ℕ → F × F}

theorem RepOutcome.Keeps.timeRep {reps : ℕ} {outcome next : RepOutcome F}
    (h : outcome.Keeps warmupReps runRep reps)
    (hnext : timeRep warmupReps metricKey isCancelled runRep outcome reps =
      .ok next) :
    next.Keeps warmupReps runRep (reps + 1) := by
  rw [Darcbench.timeRep] at hnext
  by_cases hcancelled : isCancelled reps = true
  · rw [if_pos hcancelled] at hnext
    cases hnext
  · rw [if_neg hcancelled] at hnext
    obtain rfl := Except.ok.inj hnext
    constructor
    · rw [List.range_succ, List.map_append, h.samples]
      rfl
    · dsimp only
      rw [measuredValues_append, ← h.measured]
      by_cases hwarmup : (repSample warmupReps runRep reps).warmup = true
      · simp [measuredValues, hwarmup]
      · simp [measuredValues, hwarmup]

theorem RepOutcome.keeps_of_foldlM (reps : ℕ) {outcome : RepOutcome F}
    (h : (List.range reps).foldlM
      (Darcbench.timeRep warmupReps metricKey isCancelled runRep)
        ⟨[], [], []⟩ = .ok outcome) :
    outcome.Keeps warmupReps runRep reps := by
  induction reps generalizing outcome with
  | zero =>
      obtain rfl := Except.ok.inj h
      exact ⟨rfl, rfl⟩
  | succ reps ih =>
      rw [List.range_succ, List.foldlM_append] at h
      cases hbefore : (List.range reps).foldlM
          (Darcbench.timeRep warmupReps metricKey isCancelled runRep)
            ⟨[], [], []⟩ with
      | error e =>
          rw [hbefore] at h
          cases h
      | ok before =>
          simp only [hbefore, List.foldlM_cons, List.foldlM_nil, bind_pure]
            at h
          exact (ih hbefore).timeRep h

theorem keeps_of_timeReps {measuredReps : ℕ} {outcome : RepOutcome F}
    (h : timeReps warmupReps measuredReps metricKey isCancelled runRep =
      .ok outcome) :
    outcome.Keeps warmupReps runRep (warmupReps + measuredReps) :=
  RepOutcome.keeps_of_foldlM _ h

/-- A loop that is not cancelled comes to its end. -/
theorem exists_timeReps {measuredReps : ℕ}
    (h : ∀ rep < warmupReps + measuredReps, isCancelled rep = false) :
    ∃ outcome, timeReps warmupReps measuredReps metricKey isCancelled runRep =
      .ok outcome := by
  rw [timeReps]
  generalize warmupReps + measuredReps = reps at h
  induction reps with
  | zero => exact ⟨_, rfl⟩
  | succ reps ih =>
      obtain ⟨before, hbefore⟩ := ih fun rep hrep => h rep (by omega)
      simp only [List.range_succ, List.foldlM_append, hbefore,
        List.foldlM_cons, List.foldlM_nil, bind_pure]
      change ∃ outcome,
        timeRep warmupReps metricKey isCancelled runRep before reps =
          .ok outcome
      have hgoes : ¬ isCancelled reps = true :=
        ne_true_of_eq_false (h reps (Nat.lt_succ_self reps))
      rw [timeRep, if_neg hgoes]
      exact ⟨_, rfl⟩

end

end Darcbench
