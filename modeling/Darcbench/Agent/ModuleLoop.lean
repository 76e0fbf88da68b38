import Darcbench.Agent.Watchdog
import Darcbench.Support.Runs

/-!
# The module loop

The modules of a run are measured one after the other.  Around each of them the
loop clears the slot in which the watchdog notes contention, suspends or resumes
the load ceiling, and collects what was noted, while the telemetry task goes on
sampling the machine.
-/

namespace Darcbench

variable {F : Type} [F64 F]

/-! ## What a module task comes to -/

/-- Why a module did not produce a result. -/
inductive ModuleError where
  | cancelled
  | precondition (message : String)
  | workload (message : String)
  | noSamples (metric : String)
  deriving DecidableEq

def ModuleError.toText : ModuleError → String
  | cancelled => "module cancelled by operator"
  | precondition message => s!"precondition not met: {message}"
  | workload message => s!"workload failed: {message}"
  | noSamples metric =>
      s!"measurement produced no usable samples for `{metric}`"

/-- What a module hands back. -/
structure ModuleOutput (F : Type) [F64 F] where
  metrics : List (Metric F)
  warnings : List Warning
  context : BTreeMap String (Value F)

/-- How the task of a module ends. -/
inductive TaskOutcome (F : Type) [F64 F] where
  | output (output : ModuleOutput F)
  | error (error : ModuleError)
  /-- The task panicked or was aborted. -/
  | notJoined

/-- A module of the registry. -/
structure BenchmarkModule where
  moduleRef : ModuleRef
  workloadRunsOutsideThisProcess : Bool
  deriving DecidableEq

/-- When a module was measured. -/
structure Stopwatch (F : Type) where
  startedAt : Timestamp
  finishedAt : Timestamp
  durationMs : F

/-- The result that is pushed for a module, if any, with the contention that was
collected when it ended. -/
def moduleResult (moduleRef : ModuleRef) (cycle : ℕ) (time : Stopwatch F)
    (contention : Option Warning) : TaskOutcome F → Option (ModuleResult F)
  | .output output =>
      let warnings := output.warnings ++ contention.toList
      let degraded := warnings.any fun w => w.code.degradesResult
      some
        { module := moduleRef
          status := if degraded then .degraded else .completed
          cycle := cycle
          startedAt := time.startedAt
          finishedAt := time.finishedAt
          durationMs := time.durationMs
          metrics := output.metrics
          warnings := warnings
          error := none
          context := output.context }
  | .error .cancelled => none
  | .error error =>
      some
        { module := moduleRef
          status := .failed
          cycle := cycle
          startedAt := time.startedAt
          finishedAt := time.finishedAt
          durationMs := time.durationMs
          metrics := []
          warnings := contention.toList
          error := some error.toText
          context := ∅ }
  | .notJoined => none

/-- The cycle ends early after a module that was cancelled. -/
def TaskOutcome.breaksCycle : TaskOutcome F → Bool
  | .error .cancelled => true
  | _ => false

/-! ## The loop and the telemetry task -/

/-- What happened around a module that has ended: the contention noted in the
gap before it and while it was in flight, and what was collected for it. -/
structure Window (F : Type) [F64 F] where
  module : BenchmarkModule
  cycle : ℕ
  time : Stopwatch F
  outcome : TaskOutcome F
  gap : List Warning
  flight : List Warning
  contention : Option Warning

def Window.result (window : Window F) : Option (ModuleResult F) :=
  moduleResult window.module.moduleRef window.cycle window.time
    window.contention window.outcome

namespace ModuleLoop

/-- Where the loop is. -/
inductive Pc (F : Type) [F64 F] where
  /-- At the head of the loop. -/
  | idle
  /-- The module is announced, but the slot is not cleared yet. -/
  | queued (module : BenchmarkModule)
  | cleared (module : BenchmarkModule)
  | running (module : BenchmarkModule)
  | ended (module : BenchmarkModule) (time : Stopwatch F)
      (outcome : TaskOutcome F)
  /-- The load ceiling is resumed. -/
  | resumed (module : BenchmarkModule) (time : Stopwatch F)
      (outcome : TaskOutcome F)
  /-- The slot is taken. -/
  | taken (window : Window F)

/-- A module is in flight from the clearing of the slot to its taking. -/
def Pc.inFlight : Pc F → Bool
  | .cleared _ | .running _ | .ended .. | .resumed .. => true
  | .idle | .queued _ | .taken _ => false

end ModuleLoop

/-- The module loop and the telemetry task of a run. -/
structure ModuleLoop (F : Type) [F64 F] where
  /-- The watchdog of the telemetry task, until the task returns. -/
  telemetry : Option Watchdog
  handle : Supervision
  cancelled : Bool
  modules : List BenchmarkModule
  cycle : ℕ
  /-- The modules that this cycle has not come to yet. -/
  remaining : List BenchmarkModule
  pc : ModuleLoop.Pc F
  results : List (ModuleResult F)
  /-- History: some module has ended. -/
  between : Bool
  /-- History: what was noted since the slot was last taken, between two
  modules. -/
  gap : List Warning
  /-- History: what was noted since the module in flight was started. -/
  flight : List Warning
  /-- History: the modules that were finished. -/
  windows : List (Window F)

namespace ModuleLoop

inductive Action (F : Type) [F64 F] where
  | tick (tick : Tick F)
  | cancel
  | start
  | clear
  | suspend
  | finish (time : Stopwatch F) (outcome : TaskOutcome F)
  | resume
  | take
  | record
  | nextCycle

/-- Keeps track of what is noted, and where. -/
def log (s : ModuleLoop F) : Option Warning → ModuleLoop F
  | none => s
  | some warning =>
      if s.pc.inFlight then
        { s with flight := s.flight ++ [warning] }
      else if s.between then
        { s with gap := s.gap ++ [warning] }
      else
        s

/-- The window of the module that has just ended, and the loop after it. -/
def close (s : ModuleLoop F) (module : BenchmarkModule) (time : Stopwatch F)
    (outcome : TaskOutcome F) : ModuleLoop F :=
  { s with
    handle := s.handle.takeContention
    pc := .taken
      { module := module
        cycle := s.cycle
        time := time
        outcome := outcome
        gap := s.gap
        flight := s.flight
        contention := s.handle.contention }
    between := true
    gap := []
    flight := [] }

variable [F64.Display F]

/-- What a check notes on the handle. -/
def noted (watchdog : Watchdog) (handle : Supervision) (tick : Tick F) :
    Option Warning :=
  (watchdog.check handle.takeContention tick).2.2.contention

/-- An iteration of the telemetry task. -/
def observe (s : ModuleLoop F) (watchdog : Watchdog) (tick : Tick F) :
    ModuleLoop F :=
  let checked := watchdog.check s.handle tick
  let logged := s.log (noted watchdog s.handle tick)
  match checked.1 with
  | some (.abort _) =>
      { logged with
        telemetry := none, handle := checked.2.2, cancelled := true }
  | _ =>
      { logged with telemetry := some checked.2.1, handle := checked.2.2 }

def step (s : ModuleLoop F) : Action F → Option (ModuleLoop F)
  | .tick tick => s.telemetry.map fun watchdog => s.observe watchdog tick
  | .cancel => some { s with cancelled := true }
  | .start =>
      match s.pc, s.remaining with
      | .idle, module :: rest =>
          if s.cancelled then
            none
          else
            some { s with pc := .queued module, remaining := rest }
      | _, _ => none
  | .clear =>
      match s.pc with
      | .queued module =>
          some { s with
            handle := s.handle.takeContention
            pc := .cleared module
            flight := [] }
      | _ => none
  | .suspend =>
      match s.pc with
      | .cleared module =>
          some { s with
            handle := s.handle.setLoadCeilingSuspended
              module.workloadRunsOutsideThisProcess
            pc := .running module }
      | _ => none
  | .finish time outcome =>
      match s.pc with
      | .running module => some { s with pc := .ended module time outcome }
      | _ => none
  | .resume =>
      match s.pc with
      | .ended module time outcome =>
          some { s with
            handle := s.handle.setLoadCeilingSuspended false
            pc := .resumed module time outcome }
      | _ => none
  | .take =>
      match s.pc with
      | .resumed module time outcome => some (s.close module time outcome)
      | _ => none
  | .record =>
      match s.pc with
      | .taken window =>
          some { s with
            pc := .idle
            results := s.results ++ window.result.toList
            remaining :=
              if window.outcome.breaksCycle then [] else s.remaining
            windows := s.windows ++ [window] }
      | _ => none
  | .nextCycle =>
      match s.pc, s.remaining with
      | .idle, [] =>
          if s.cancelled || s.handle.cycleTarget.isNone then
            none
          else
            some { s with cycle := s.cycle + 1, remaining := s.modules }
      | _, _ => none

/-- A run that is about to measure its first module. -/
def Initial (s : ModuleLoop F) : Prop :=
  ∃ (host : HostView F) (cycleTarget : Option ℕ)
    (modules : List BenchmarkModule) (cancelled : Bool),
    s =
      { telemetry := some (Watchdog.new host)
        handle := Supervision.new cycleTarget
        cancelled := cancelled
        modules := modules
        cycle := 0
        remaining := modules
        pc := .idle
        results := []
        between := false
        gap := []
        flight := []
        windows := [] }

/-- The module loop and the telemetry task, interleaved in any order. -/
def system : TransitionSystem (ModuleLoop F) (Action F) where
  initial := Initial
  step := step

end ModuleLoop

/-! ## What a window promises -/

namespace Window

/-- The result of the module bears one of the warnings: it is degraded, or it
has failed and carries the warning. -/
def Bears (result : ModuleResult F) (warnings : List Warning) : Prop :=
  result.status = .degraded ∨
    result.status = .failed ∧ ∃ w ∈ warnings, w ∈ result.warnings

/-- Contention is charged to the right module. -/
structure Right (window : Window F) : Prop where
  /-- Contention in flight is charged to the module in flight. -/
  inFlight : window.module.workloadRunsOutsideThisProcess = false →
    window.flight ≠ [] → ∀ result ∈ window.result,
      Bears result window.flight
  /-- Contention noted before the last module ended is charged to no later
  one. -/
  notEarlier : window.gap = [] → window.flight = [] →
    window.result = ({ window with contention := none } : Window F).result
  /-- Contention noted between two modules is charged to the next one. -/
  between : window.gap ≠ [] → ∀ result ∈ window.result,
    Bears result (window.gap ++ window.flight)

/-- The slot was taken with what was noted in flight, and nothing was noted
before. -/
structure Collected (window : Window F) : Prop where
  contention_eq : window.contention = window.flight.getLast?
  gap_eq : window.gap = []
  code_eq : ∀ w ∈ window.flight, w.code = .externalLoad

/-- A warning that is collected marks the result. -/
theorem bears_of_contention {window : Window F} {warning : Warning}
    {warnings : List Warning} (hmem : warning ∈ warnings)
    (hcode : warning.code = .externalLoad)
    (hcontention : window.contention = some warning) :
    ∀ result ∈ window.result, Bears result warnings := by
  have hdegrades : warning.code.degradesResult = true := by
    rw [hcode]
    rfl
  intro r hresult
  rw [result, hcontention] at hresult
  cases houtcome : window.outcome with
  | output output =>
      rw [houtcome] at hresult
      obtain rfl := Option.some.inj hresult
      left
      have hany : (output.warnings ++ [warning]).any
          (fun w => w.code.degradesResult) = true := by
        rw [List.any_append, List.any_cons, hdegrades, Bool.true_or,
          Bool.or_true]
      exact if_pos hany
  | error error =>
      rw [houtcome] at hresult
      cases error with
      | cancelled => exact absurd hresult (by simp [moduleResult])
      | _ =>
          obtain rfl := Option.some.inj hresult
          exact .inr ⟨rfl, warning, hmem, List.mem_singleton_self warning⟩
  | notJoined =>
      rw [houtcome] at hresult
      exact absurd hresult (by simp [moduleResult])

theorem Collected.right {window : Window F} (h : window.Collected) :
    window.Right where
  inFlight _ hne := by
    have hlast := List.getLast?_eq_some_getLast hne
    have hmem := List.getLast_mem hne
    exact bears_of_contention hmem (h.code_eq _ hmem)
      (h.contention_eq.trans hlast)
  notEarlier _ hflight := by
    have hnone : window.contention = none := by
      rw [h.contention_eq, hflight]
      rfl
    rw [result, result, hnone]
  between hgap := absurd h.gap_eq hgap

end Window

/-! ## The invariant -/

namespace ModuleLoop

/-- No note is dropped: a module that follows another one finds the slot
empty. -/
def DropsNothing (s : ModuleLoop F) : Action F → Prop
  | .clear => s.between = true → s.handle.contention = none
  | _ => True

/-- The invariant of the loop. -/
structure Invariant (s : ModuleLoop F) : Prop where
  inFlight : s.pc.inFlight = true →
    s.handle.contention = s.flight.getLast? ∧ s.gap = []
  waiting : s.pc.inFlight = false → s.between = true →
    s.handle.contention = s.gap.getLast?
  unstarted : s.between = false → s.gap = []
  code_eq : ∀ w ∈ s.flight, w.code = .externalLoad
  taken : ∀ window, s.pc = .taken window → window.Collected
  windows : ∀ window ∈ s.windows, window.Collected
  results_eq : s.results = s.windows.filterMap Window.result

namespace Invariant

theorem initial {s : ModuleLoop F} (h : Initial s) : s.Invariant := by
  obtain ⟨host, cycleTarget, modules, cancelled, rfl⟩ := h
  exact
    { inFlight := fun h => absurd h Bool.false_ne_true
      waiting := fun _ h => absurd h Bool.false_ne_true
      unstarted := fun _ => rfl
      code_eq := List.forall_mem_nil _
      taken := fun _ h => absurd h (by simp)
      windows := List.forall_mem_nil _
      results_eq := rfl }

variable {s t : ModuleLoop F}

/-- The invariant only looks at the slot of the handle. -/
theorem log (h : s.Invariant) {note : Option Warning} {handle : Supervision}
    (hcode : ∀ w ∈ note, w.code = .externalLoad)
    (hnote : handle.contention = (note <|> s.handle.contention))
    (telemetry : Option Watchdog) (cancelled : Bool) :
    ({ s.log note with
      telemetry := telemetry
      handle := handle
      cancelled := cancelled } : ModuleLoop F).Invariant := by
  cases note with
  | none =>
      have hsame : handle.contention = s.handle.contention := hnote
      exact
        { inFlight := fun hpc => hsame ▸ h.inFlight hpc
          waiting := fun hpc hbetween => hsame ▸ h.waiting hpc hbetween
          unstarted := h.unstarted
          code_eq := h.code_eq
          taken := h.taken
          windows := h.windows
          results_eq := h.results_eq }
  | some warning =>
      have hslot : handle.contention = some warning := hnote
      have hcode : warning.code = .externalLoad := hcode warning rfl
      cases hpc : s.pc.inFlight with
      | true =>
          have hlog : s.log (some warning) =
              { s with flight := s.flight ++ [warning] } := by
            rw [ModuleLoop.log, if_pos hpc]
          rw [hlog]
          exact
            { inFlight := fun _ =>
                ⟨hslot.trans List.getLast?_concat.symm, (h.inFlight hpc).2⟩
              waiting := fun hwaiting =>
                absurd (hpc.symm.trans hwaiting) (by decide)
              unstarted := h.unstarted
              code_eq := by
                intro w hw
                rcases List.mem_append.mp hw with hw | hw
                · exact h.code_eq w hw
                · rwa [List.mem_singleton.mp hw]
              taken := h.taken
              windows := h.windows
              results_eq := h.results_eq }
      | false =>
          have hidle : ¬ s.pc.inFlight = true := by
            rw [hpc]
            exact Bool.false_ne_true
          cases hbetween : s.between with
          | true =>
              have hlog : s.log (some warning) =
                  { s with gap := s.gap ++ [warning] } := by
                rw [ModuleLoop.log, if_neg hidle, if_pos hbetween]
              rw [hlog]
              exact
                { inFlight := fun hflight => absurd hflight hidle
                  waiting := fun _ _ =>
                    hslot.trans List.getLast?_concat.symm
                  unstarted := fun hfirst =>
                    absurd (hbetween.symm.trans hfirst) (by decide)
                  code_eq := h.code_eq
                  taken := h.taken
                  windows := h.windows
                  results_eq := h.results_eq }
          | false =>
              have hlog : s.log (some warning) = s := by
                rw [ModuleLoop.log, if_neg hidle,
                  if_neg (by rw [hbetween]; exact Bool.false_ne_true)]
              rw [hlog]
              exact
                { inFlight := fun hflight => absurd hflight hidle
                  waiting := fun _ hlater =>
                    absurd (hbetween.symm.trans hlater) (by decide)
                  unstarted := h.unstarted
                  code_eq := h.code_eq
                  taken := h.taken
                  windows := h.windows
                  results_eq := h.results_eq }

variable [F64.Display F]

theorem tick (h : s.Invariant) {tick : Tick F}
    (hstep : s.step (.tick tick) = some t) :
    t.Invariant := by
  rw [step, Option.map_eq_some_iff] at hstep
  obtain ⟨watchdog, -, rfl⟩ := hstep
  have hcheck := Watchdog.check_eq watchdog s.handle tick
  have hcode : ∀ w ∈ noted watchdog s.handle tick, w.code = .externalLoad :=
    fun w hw => Watchdog.code_of_check rfl hw
  have hnote : (watchdog.check s.handle tick).2.2.contention =
      (noted watchdog s.handle tick <|> s.handle.contention) := by
    rw [hcheck]
    rfl
  rw [observe]
  rcases (watchdog.check s.handle tick).1 with _ | _ | _
  · exact h.log hcode hnote _ _
  · exact h.log hcode hnote _ _
  · exact h.log hcode hnote _ _

theorem clear (h : s.Invariant) (hallowed : s.DropsNothing .clear)
    (hstep : s.step .clear = some t) :
    t.Invariant := by
  rw [step] at hstep
  split at hstep
  · next module hpc =>
      obtain rfl := Option.some.inj hstep
      have hidle : s.pc.inFlight = false := by
        rw [hpc]
        rfl
      have hgap : s.gap = [] := by
        cases hbetween : s.between with
        | false => exact h.unstarted hbetween
        | true =>
            rw [← List.getLast?_eq_none_iff, ← h.waiting hidle hbetween]
            exact hallowed hbetween
      exact
        { inFlight := fun _ => ⟨rfl, hgap⟩
          waiting := fun hwaiting => absurd hwaiting (by simp [Pc.inFlight])
          unstarted := fun _ => hgap
          code_eq := List.forall_mem_nil _
          taken := fun _ h => absurd h (by simp)
          windows := h.windows
          results_eq := h.results_eq }
  · exact absurd hstep (by simp)

theorem take (h : s.Invariant) (hstep : s.step .take = some t) :
    t.Invariant := by
  rw [step] at hstep
  split at hstep
  · next module time outcome hpc =>
      obtain rfl := Option.some.inj hstep
      have hflight : s.pc.inFlight = true := by
        rw [hpc]
        rfl
      obtain ⟨hslot, hgap⟩ := h.inFlight hflight
      exact
        { inFlight := fun hflight => absurd hflight (by simp [close, Pc.inFlight])
          waiting := fun _ _ => rfl
          unstarted := fun _ => rfl
          code_eq := List.forall_mem_nil _
          taken := by
            intro window hwindow
            obtain rfl := Pc.taken.inj hwindow
            exact ⟨hslot, hgap, h.code_eq⟩
          windows := h.windows
          results_eq := h.results_eq }
  · exact absurd hstep (by simp)

theorem record (h : s.Invariant) (hstep : s.step .record = some t) :
    t.Invariant := by
  rw [step] at hstep
  split at hstep
  · next window hpc =>
      obtain rfl := Option.some.inj hstep
      have hidle : s.pc.inFlight = false := by
        rw [hpc]
        rfl
      exact
        { inFlight := fun hflight => absurd hflight Bool.false_ne_true
          waiting := fun _ => h.waiting hidle
          unstarted := h.unstarted
          code_eq := h.code_eq
          taken := fun _ h => absurd h (by simp)
          windows := by
            intro w hw
            rcases List.mem_append.mp hw with hw | hw
            · exact h.windows w hw
            · rw [List.mem_singleton.mp hw]
              exact h.taken window hpc
          results_eq := by
            rw [List.filterMap_append, ← h.results_eq]
            cases hresult : window.result with
            | none => rw [List.filterMap_cons_none hresult]; rfl
            | some r => rw [List.filterMap_cons_some hresult]; rfl }
  · exact absurd hstep (by simp)

omit [F64.Display F] in
/-- Steps that neither touch the slot nor enter or leave a flight. -/
theorem moved (h : s.Invariant) (hpc : t.pc.inFlight = s.pc.inFlight)
    (hslot : t.handle.contention = s.handle.contention)
    (htaken : ∀ window, t.pc = .taken window → s.pc = .taken window)
    (hhistory : (t.between, t.gap, t.flight, t.windows, t.results) =
      (s.between, s.gap, s.flight, s.windows, s.results)) :
    t.Invariant := by
  simp only [Prod.mk.injEq] at hhistory
  obtain ⟨hbetween, hgap, hflight, hwindows, hresults⟩ := hhistory
  constructor
  · rw [hpc, hslot, hflight, hgap]
    exact h.inFlight
  · rw [hpc, hslot, hbetween, hgap]
    exact h.waiting
  · rw [hbetween, hgap]
    exact h.unstarted
  · rw [hflight]
    exact h.code_eq
  · exact fun window hwindow => h.taken window (htaken window hwindow)
  · rw [hwindows]
    exact h.windows
  · rw [hwindows, hresults]
    exact h.results_eq

theorem step (h : s.Invariant) {a : Action F} (hallowed : s.DropsNothing a)
    (hstep : s.step a = some t) :
    t.Invariant := by
  cases a with
  | tick tick => exact h.tick hstep
  | clear => exact h.clear hallowed hstep
  | take => exact h.take hstep
  | record => exact h.record hstep
  | cancel =>
      obtain rfl := Option.some.inj hstep
      exact h.moved rfl rfl (fun _ => id) rfl
  | start =>
      rw [ModuleLoop.step] at hstep
      split at hstep
      · next module rest hpc hremaining =>
          rw [Option.ite_none_left_eq_some] at hstep
          obtain ⟨-, hstep⟩ := hstep
          obtain rfl := Option.some.inj hstep
          exact h.moved (by rw [hpc]; rfl) rfl (by simp) rfl
      · exact absurd hstep (by simp)
  | suspend =>
      rw [ModuleLoop.step] at hstep
      split at hstep
      · next module hpc =>
          obtain rfl := Option.some.inj hstep
          exact h.moved (by rw [hpc]; rfl) rfl (by simp) rfl
      · exact absurd hstep (by simp)
  | finish time outcome =>
      rw [ModuleLoop.step] at hstep
      split at hstep
      · next module hpc =>
          obtain rfl := Option.some.inj hstep
          exact h.moved (by rw [hpc]; rfl) rfl (by simp) rfl
      · exact absurd hstep (by simp)
  | resume =>
      rw [ModuleLoop.step] at hstep
      split at hstep
      · next module time outcome hpc =>
          obtain rfl := Option.some.inj hstep
          exact h.moved (by rw [hpc]; rfl) rfl (by simp) rfl
      · exact absurd hstep (by simp)
  | nextCycle =>
      rw [ModuleLoop.step] at hstep
      split at hstep
      · next hpc hremaining =>
          rw [Option.ite_none_left_eq_some] at hstep
          obtain ⟨-, hstep⟩ := hstep
          obtain rfl := Option.some.inj hstep
          exact h.moved rfl rfl (fun _ => id) rfl
      · exact absurd hstep (by simp)

end Invariant

variable [F64.Display F]

def cpuMixed : BenchmarkModule where
  moduleRef := ⟨⟨"cpu.mixed", ModuleId.check_cpuMixed⟩, "1.0.0"⟩
  workloadRunsOutsideThisProcess := false

def memoryMixed : BenchmarkModule where
  moduleRef := ⟨⟨"memory.mixed", by decide⟩, "1.0.0"⟩
  workloadRunsOutsideThisProcess := false

/-- A run of two modules on a machine on which the load ceiling is armed. -/
def twoModules : ModuleLoop Float where
  telemetry := some (Watchdog.new (F := Float) ⟨.bareMetal, none, 8⟩)
  handle := Supervision.new none
  cancelled := false
  modules := [cpuMixed, memoryMixed]
  cycle := 0
  remaining := [cpuMixed, memoryMixed]
  pc := .idle
  results := []
  between := false
  gap := []
  flight := []
  windows := []

/-- A sample in some second of the run, with a load by others. -/
def loadedTick (external : Float) (second : ℕ) : Action Float :=
  .tick ⟨Supervision.seconds second, ⟨none, external, false⟩⟩

def cleanOutput : TaskOutcome Float :=
  .output ⟨[], [], ∅⟩

def stopwatch : Stopwatch Float := ⟨0, 0, 0.0⟩

/-- The run when its first module has just cleared the slot. -/
def firstCleared : ModuleLoop Float :=
  { twoModules with pc := .cleared cpuMixed, remaining := [memoryMixed] }

/-- The first module, contended for nineteen seconds. -/
def firstModule : List (Action Float) :=
  [.suspend] ++ (List.range 19).map (loadedTick 15.0) ++
    [.finish stopwatch cleanOutput, .resume, .take, .record]

/-- The twentieth contended second, and a quiet second module. -/
def secondModule : List (Action Float) :=
  [loadedTick 15.0 19, .start, .clear, .suspend, loadedTick 0.0 20,
    .finish stopwatch cleanOutput, .resume, .take, .record]

def afterFirst : ModuleLoop Float :=
  (system.runFrom firstCleared firstModule).get (by rfl)

def afterBoth : ModuleLoop Float :=
  (system.runFrom afterFirst secondModule).get (by rfl)

/-- The window of the second module. -/
def secondWindow : Window Float :=
  afterBoth.windows.get ⟨1, by decide +kernel⟩

theorem reaches_afterFirst : system.Reaches DropsNothing afterFirst := by
  have hinitial : system.initial twoModules :=
    ⟨⟨.bareMetal, none, 8⟩, none, [cpuMixed, memoryMixed], false, rfl⟩
  have hstarted : system.Reaches DropsNothing
      { twoModules with pc := .queued cpuMixed, remaining := [memoryMixed] } :=
    (TransitionSystem.Reaches.initial hinitial).step (a := .start) trivial rfl
  have hcleared : system.Reaches DropsNothing firstCleared :=
    hstarted.step (a := .clear) (fun h => absurd h Bool.false_ne_true) rfl
  have hrun : system.runFrom firstCleared firstModule = some afterFirst :=
    (Option.some_get _).symm
  refine hcleared.runFrom ?_ hrun
  intro a ha s
  simp only [firstModule, List.mem_append, List.mem_map, List.mem_cons,
    List.not_mem_nil, or_false] at ha
  rcases ha with (rfl | ⟨second, -, rfl⟩) | rfl | rfl | rfl | rfl
  all_goals trivial

end ModuleLoop

end Darcbench
