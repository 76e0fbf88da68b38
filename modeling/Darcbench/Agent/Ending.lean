import Darcbench.Agent.Replayed
import Darcbench.Support.Runs

/-!
# How a run ends

A run emits one terminal event, and publishes a terminal state after that.
The telemetry task is stopped before, but may still complete the iteration it
is in, so other events can follow the terminal one.
-/

namespace Darcbench

namespace RunHandle

variable {F : Type} [F64 F]

/-- The run has emitted its terminal event. -/
def hasEnded (handle : RunHandle F) : Bool :=
  handle.emitted.any fun e => e.event.isStreamTerminal

/-- The terminal event is emitted once. -/
def mayEmit (handle : RunHandle F) (event : Event F) : Bool :=
  handle.canEmit && (!event.isStreamTerminal || !handle.hasEnded)

/-- The terminal event, once emitted, can still be received and replayed. -/
def KeepsEnd (handle : RunHandle F) : Prop :=
  ∀ e ∈ handle.emitted, e.event.isStreamTerminal = true →
    handle.tx.oldest ≤ e.seq ∧ handle.firstBuffered ≤ e.seq

/-- A terminal state is the last one, and comes after the terminal event. -/
def maySetState (handle : RunHandle F) (state : RunState) : Bool :=
  !handle.state.isTerminal && (!state.isTerminal || handle.hasEnded)

theorem hasEnded_iff {handle : RunHandle F} :
    handle.hasEnded = true ↔
      ∃ e ∈ handle.emitted, e.event.isStreamTerminal = true :=
  List.any_eq_true

theorem mayEmit_of_canEmit {handle : RunHandle F} {event : Event F}
    (hcan : handle.canEmit = true) (hevent : event.isStreamTerminal = false) :
    handle.mayEmit event = true := by
  rw [mayEmit, hcan, hevent]
  rfl

/-- A run that has published a terminal state has emitted its terminal
event. -/
structure Ends (handle : RunHandle F) : Prop extends handle.Sound where
  published : handle.state.isTerminal = true → handle.hasEnded = true

namespace Ends

variable {handle : RunHandle F}

theorem new (id : RunId) (replayBuffer channel : ℕ) :
    (RunHandle.new (F := F) id replayBuffer channel).Ends where
  toWellFormed := wellFormed_new id replayBuffer channel
  count_le := Nat.zero_le _
  published hterminal := nomatch hterminal

theorem setState (h : handle.Ends) {state : RunState}
    (hmay : handle.maySetState state = true) :
    (handle.setState state).Ends where
  toSound := h.toSound.setState state
  published hterminal := by
    have hstate : state.isTerminal = true := hterminal
    rw [maySetState, hstate, Bool.and_eq_true] at hmay
    exact hmay.2

variable [Chrono] [JsonText F]

theorem emit (h : handle.Ends) {event : Event F}
    (hmay : handle.mayEmit event = true) (now : ClockReading) :
    (handle.emit now event).Ends where
  toSound := h.toSound.emit (Bool.and_eq_true_iff.mp hmay).1 now event
  published hterminal := by
    rw [hasEnded, emitted_emit, List.any_append]
    exact Bool.or_eq_true_iff.mpr (.inl (h.published hterminal))

end Ends

/-! ## One step of a run -/

/-- What a run does that its observers can notice. -/
inductive RunStep (F : Type) [F64 F] where
  | emit (now : ClockReading) (event : Event F)
  | setState (state : RunState)

section Steps

variable [Chrono] [JsonText F]

def advance (handle : RunHandle F) : RunStep F → Option (RunHandle F)
  | .emit now event =>
      if handle.mayEmit event then some (handle.emit now event) else none
  | .setState state =>
      if handle.maySetState state then some (handle.setState state) else none

/-- What a step of the run changes for its observers. -/
structure Advances (handle next : RunHandle F) : Prop where
  ends : next.Ends
  closed_eq : next.tx.closed = handle.tx.closed
  emitted_eq : ∃ more, next.emitted = handle.emitted ++ more
  seq_ge : ∀ e ∈ next.emitted, e ∈ handle.emitted ∨
    handle.emitted.length ≤ e.seq

theorem Ends.advance {handle next : RunHandle F} (h : handle.Ends)
    {runStep : RunStep F} (hstep : handle.advance runStep = some next) :
    handle.Advances next := by
  cases runStep with
  | emit now event =>
      rw [RunHandle.advance, Option.ite_none_right_eq_some,
        Option.some_inj] at hstep
      obtain ⟨hmay, rfl⟩ := hstep
      refine ⟨h.emit hmay now, rfl, ⟨_, rfl⟩, fun e he => ?_⟩
      rcases List.mem_append.mp he with hold | hnew
      · exact .inl hold
      · right
        rw [List.mem_singleton.mp hnew, ← h.seq_eq]
        exact le_rfl
  | setState state =>
      rw [RunHandle.advance, Option.ite_none_right_eq_some,
        Option.some_inj] at hstep
      obtain ⟨hmay, rfl⟩ := hstep
      exact ⟨h.setState hmay, rfl, ⟨[], (List.append_nil _).symm⟩,
        fun e he => .inl he⟩

/-- Several steps in a row. -/
def advanceAll (handle : RunHandle F) : List (RunStep F) → Option (RunHandle F)
  | [] => some handle
  | runStep :: rest =>
      (handle.advance runStep).bind fun next => next.advanceAll rest

end Steps

/-! ## Systems in which a run makes its steps -/

/-- A system that contains a run. -/
structure Running {σ α : Type} (sys : TransitionSystem σ α) (F : Type) [F64 F]
    [Chrono] [JsonText F] where
  handle : σ → RunHandle F
  withHandle : σ → RunHandle F → σ
  run : RunStep F → α
  handle_withHandle : ∀ s h, handle (withHandle s h) = h
  withHandle_withHandle : ∀ s h h',
    withHandle (withHandle s h) h' = withHandle s h'
  withHandle_handle : ∀ s, withHandle s (handle s) = s
  step_run : ∀ s runStep, sys.step s (run runStep) =
    ((handle s).advance runStep).map (withHandle s)

/-- The run may make several steps in a row. -/
theorem Running.runFrom_run {σ α : Type} {sys : TransitionSystem σ α}
    [Chrono] [JsonText F] (r : Running sys F) {s : σ}
    {runSteps : List (RunStep F)} {handle : RunHandle F}
    (h : (r.handle s).advanceAll runSteps = some handle) :
    sys.runFrom s (runSteps.map r.run) = some (r.withHandle s handle) := by
  induction runSteps generalizing s with
  | nil =>
      obtain rfl := Option.some.inj h
      rw [r.withHandle_handle]
      rfl
  | cons runStep rest ih =>
      obtain ⟨next, hnext, hrest⟩ := Option.bind_eq_some_iff.mp h
      have hstep : sys.step s (r.run runStep) = some (r.withHandle s next) := by
        rw [r.step_run, hnext]
        rfl
      have htail := ih (s := r.withHandle s next)
        (by rw [r.handle_withHandle]; exact hrest)
      rw [List.map_cons, TransitionSystem.runFrom, hstep, Option.bind_some,
        htail, r.withHandle_withHandle]

/-! ## A run that is refused before it begins -/

open scoped StandIns

/-- All that happens when the preflight of a run does not pass. -/
def refusedRun : List (RunStep Float) :=
  [.emit ⟨0, 0⟩ quietCreated.2,
    .setState .preflight,
    .emit ⟨0, 0⟩ (.preflightStarted ⟨["modules.selected"]⟩),
    .emit ⟨0, 0⟩ (.preflightCompleted
      { risk := .unsupported
        passed := false
        findings := [⟨"modules.selected", .error, "no module", true⟩]
        estimatedDurationS := 0
        estimatedBytesWritten := 0
        estimatedNetworkBytes := 0
        estimatedPeakMemoryBytes := 0
        estimatedWriteVolumeBytes := 0 }),
    .setState .finalizing,
    .emit ⟨0, 0⟩ (.scoreFinal ⟨"dev-0", false, none, [], true⟩),
    .emit ⟨0, 0⟩ (.reportGenerated ⟨["json", "html"], "", 0⟩),
    .emit ⟨0, 0⟩ (.runCompleted
      { state := .failed
        verdict := ⟨.partialState, [], ""⟩
        durationMs := 0
        modulesCompleted := 0
        modulesFailed := 0
        finalSeq := 6 }),
    .setState .failed]

/-- The run after all of that. -/
def refusedHandle : RunHandle Float :=
  ((RunHandle.new quietRun replayBufferSize replayBufferSize).advanceAll
    refusedRun).get rfl

theorem advanceAll_refusedRun :
    (RunHandle.new quietRun replayBufferSize replayBufferSize).advanceAll
      refusedRun = some refusedHandle :=
  (Option.some_get _).symm

theorem length_refusedHandle : refusedHandle.emitted.length = 6 := rfl

theorem oldest_refusedHandle : refusedHandle.tx.oldest = 0 := by
  have hcapacity : refusedHandle.tx.capacity = replayBufferSize := rfl
  have hlength : refusedHandle.tx.sent.length = 6 := rfl
  rw [Broadcast.oldest, hcapacity, hlength]
  rfl

end RunHandle

end Darcbench
