import Darcbench.Agent.Dashboard
import Darcbench.Web.Delivery

/-!
# When the clients of a run stop

The browser client pools incoming frames and folds them in batches.  It closes
its event source once its view shows a terminal state.  Together with the
terminal dashboard this settles which followers have seen the end of a run when
they stop.
-/

namespace Darcbench

variable {F : Type} [F64 F]

/-! ## Terminal states of the view -/

namespace RunView

/-- A view that shows a terminal state shows why. -/
def Explained (view : RunView F) : Prop :=
  view.state.any RunState.isTerminal = true →
    view.preflightPassed = some false ∨ view.verdict.isSome = true

theorem explained_reset (runId : String) :
    (reset (F := F) runId).Explained :=
  fun h => absurd h Bool.false_ne_true

theorem Explained.apply {view : RunView F} (h : view.Explained)
    (envelope : Envelope F) :
    (view.apply envelope).Explained := by
  obtain ⟨protocol, runId, seq, ts, monoMs, event⟩ := envelope
  cases event with
  | preflightCompleted body =>
      intro hterminal
      left
      simp only [RunView.apply, foldBody, foldPreflightCompleted] at hterminal ⊢
      cases hpassed : body.passed with
      | true =>
          rw [hpassed] at hterminal
          exact absurd hterminal Bool.false_ne_true
      | false => rfl
  | runCompleted body => exact fun _ => .inr rfl
  | runInvalidated body => exact fun _ => .inr rfl
  | moduleSample body =>
      simp only [RunView.apply, foldBody, foldModuleSample]
      split <;> exact h
  | runCreated body | moduleQueued body | modulePreparing body
  | moduleWarmup body | moduleStarted body =>
      exact fun hterminal => absurd hterminal Bool.false_ne_true
  | _ =>
      simp only [Explained, RunView.apply, foldBody, foldScore]
      exact h

/-- Only a terminal event brings a verdict. -/
theorem terminal_of_verdict_apply {view : RunView F} {envelope : Envelope F}
    (h : (view.apply envelope).verdict.isSome = true) :
    envelope.event.isStreamTerminal = true ∨ view.verdict.isSome = true := by
  obtain ⟨protocol, runId, seq, ts, monoMs, event⟩ := envelope
  cases event with
  | runCompleted body => exact .inl rfl
  | runInvalidated body => exact .inl rfl
  | moduleSample body =>
      simp only [apply, foldBody, foldModuleSample] at h
      split at h <;> exact .inr h
  | _ =>
      simp only [apply, foldBody, foldLifecycle, foldPreflightCompleted,
        foldScore] at h
      exact .inr h

theorem explained_foldl (runId : String) (events : List (Envelope F)) :
    (events.foldl apply (reset runId)).Explained := by
  induction events using List.reverseRecOn with
  | nil => exact explained_reset runId
  | append_singleton events e ih =>
      rw [List.foldl_append]
      exact ih.apply e

theorem terminal_of_verdict_foldl {runId : String}
    {events : List (Envelope F)}
    (h : (events.foldl apply (reset runId)).verdict.isSome = true) :
    ∃ e ∈ events, e.event.isStreamTerminal = true := by
  induction events using List.reverseRecOn with
  | nil => exact absurd h Bool.false_ne_true
  | append_singleton events e ih =>
      rw [List.foldl_append] at h
      rcases terminal_of_verdict_apply h with hend | hbefore
      · exact ⟨e, List.mem_append_right _ (List.mem_singleton_self e), hend⟩
      · obtain ⟨a, ha, hend⟩ := ih hbefore
        exact ⟨a, List.mem_append_left _ ha, hend⟩

end RunView

/-! ## The event source and its batches -/

/-- The browser client and the run it follows. -/
structure RunStream (F : Type) [F64 F] where
  handle : RunHandle F
  view : RunView F
  /-- Frames that were received and not folded yet. -/
  pending : List (Envelope F)
  /-- A timer is set that will flush the pending frames. -/
  flushTimer : Bool
  /-- The event source is open. -/
  source : Bool

namespace RunStream

/-- Past this many pending frames the timer is not waited for. -/
def maxPending : ℕ := 250

inductive Action (F : Type) [F64 F] where
  | run (runStep : RunHandle.RunStep F)
  | connection (connected : Bool)
  /-- A frame, given by its place in the run, or a malformed one. -/
  | message (position : Option ℕ)
  | timeout
  | effect

def flush (s : RunStream F) : RunStream F :=
  { s with
    view := s.view.reduce (.events s.pending)
    pending := []
    flushTimer := false }

/-- Pools a frame.  A terminal frame does not wait. -/
def receive (s : RunStream F) (envelope : Envelope F) : RunStream F :=
  let s := { s with pending := s.pending ++ [envelope] }
  if envelope.event.isStreamTerminal then
    s.flush
  else if maxPending ≤ s.pending.length then
    s.flush
  else
    { s with flushTimer := true }

/-- Closes the source.  What arrived before is still folded. -/
def disconnect (s : RunStream F) : RunStream F :=
  let s := { s with source := false }.flush
  { s with view := s.view.reduce (.connection false) }

/-- A client that has just connected to a run that has not begun. -/
def connect (runId : String) (id : RunId) (replayBuffer channel : ℕ) :
    RunStream F where
  handle := RunHandle.new id replayBuffer channel
  view := RunView.initial.reduce (.reset runId)
  pending := []
  flushTimer := false
  source := true

/-! ## What the operator can rely on -/

/-- The view is the fold of some events of the run, the terminal one among
them. -/
def SeenEnd (runId : String) (s : RunStream F) : Prop :=
  ∃ events,
    RunView.toSequencedFold.FoldedFrom (RunView.reset runId)
        s.handle.emitted s.view.disconnected events ∧
      ∃ e ∈ events, e.event.isStreamTerminal = true

/-- The client does not look at its state while the view shows a refused
preflight and no verdict yet. -/
def InTime (s : RunStream F) : Action F → Prop
  | .effect =>
      s.view.preflightPassed = some false → s.view.verdict.isSome = true
  | _ => True

/-- The invariant of the system. -/
structure Invariant (runId : String) (s : RunStream F) : Prop where
  ends : s.handle.Ends
  pending : ∀ e ∈ s.pending, e ∈ s.handle.emitted
  folded : ∃ events, RunView.toSequencedFold.FoldedFrom (RunView.reset runId)
    s.handle.emitted s.view.disconnected events
  seenEnd : s.source = false → s.SeenEnd runId

namespace Invariant

variable {runId : String} {s : RunStream F}

theorem connect (id : RunId) (replayBuffer channel : ℕ) :
    (RunStream.connect (F := F) runId id replayBuffer channel).Invariant
      runId where
  ends := RunHandle.Ends.new id replayBuffer channel
  pending _ he := absurd he List.not_mem_nil
  folded := ⟨[], SequencedFold.FoldedFrom.nil (RunView.next_reset runId) _⟩
  seenEnd := by simp [RunStream.connect]

/-- Folding the pending frames keeps what was folded. -/
theorem foldedFrom_flush (h : s.Invariant runId) {events : List (Envelope F)}
    (hfolded : RunView.toSequencedFold.FoldedFrom (RunView.reset runId)
      s.handle.emitted s.view.disconnected events) :
    ∃ more, RunView.toSequencedFold.FoldedFrom (RunView.reset runId)
      s.handle.emitted s.flush.view.disconnected (events ++ more) := by
  obtain ⟨more, hmore⟩ := hfolded.foldl h.ends.numbered h.pending
  refine ⟨more, ?_⟩
  have hview : s.flush.view.disconnected =
      s.pending.foldl RunView.toSequencedFold.fold s.view.disconnected := by
    rw [← RunView.foldl_foldEvent_eq]
    exact RunView.disconnected_foldl _ _
  rw [hview]
  exact hmore

theorem flush (h : s.Invariant runId) : s.flush.Invariant runId where
  ends := h.ends
  pending _ he := absurd he List.not_mem_nil
  folded := by
    obtain ⟨events, hfolded⟩ := h.folded
    obtain ⟨more, hmore⟩ := h.foldedFrom_flush hfolded
    exact ⟨_, hmore⟩
  seenEnd hsource := by
    obtain ⟨events, hfolded, e, he, hend⟩ := h.seenEnd hsource
    obtain ⟨more, hmore⟩ := h.foldedFrom_flush hfolded
    exact ⟨_, hmore, e, List.mem_append_left more he, hend⟩

theorem receive (h : s.Invariant runId) {envelope : Envelope F}
    (hmem : envelope ∈ s.handle.emitted) :
    (s.receive envelope).Invariant runId := by
  have hpooled (flushTimer : Bool) :
      ({ s with
          pending := s.pending ++ [envelope]
          flushTimer := flushTimer } : RunStream F).Invariant runId :=
    { ends := h.ends
      pending := fun e he => (List.mem_append.mp he).elim (h.pending e)
        fun hnew => List.mem_singleton.mp hnew ▸ hmem
      folded := h.folded
      seenEnd := h.seenEnd }
  rw [RunStream.receive]
  split
  · exact (hpooled s.flushTimer).flush
  · split
    · exact (hpooled s.flushTimer).flush
    · exact hpooled true

theorem connection (h : s.Invariant runId) (connected : Bool) :
    ({ s with view := s.view.reduce (.connection connected) } :
      RunStream F).Invariant runId where
  ends := h.ends
  pending := h.pending
  folded := h.folded
  seenEnd := h.seenEnd

/-- The client stops when its view shows the end. -/
theorem disconnect (h : s.Invariant runId) (htime : s.InTime .effect)
    (hterminal : s.view.state.any RunState.isTerminal = true) :
    s.disconnect.Invariant runId := by
  obtain ⟨events, hfolded⟩ := h.folded
  have hview := hfolded.state_eq
  have hexplained : s.view.disconnected.Explained :=
    hview ▸ RunView.explained_foldl runId events
  have hverdict : s.view.disconnected.verdict.isSome = true :=
    (hexplained hterminal).elim htime id
  obtain ⟨e, he, hend⟩ := RunView.terminal_of_verdict_foldl
    (hview ▸ hverdict)
  have hclosed : ({ s with source := false } : RunStream F).Invariant runId :=
    { ends := h.ends
      pending := h.pending
      folded := ⟨events, hfolded⟩
      seenEnd := fun _ => ⟨events, hfolded, e, he, hend⟩ }
  exact hclosed.flush.connection false

theorem run (h : s.Invariant runId) {handle : RunHandle F}
    (hadvance : s.handle.Advances handle) :
    ({ s with handle := handle } : RunStream F).Invariant runId := by
  obtain ⟨more, hmore⟩ := hadvance.emitted_eq
  exact
    { ends := hadvance.ends
      pending := fun e he => hmore ▸ List.mem_append_left more (h.pending e he)
      folded :=
        have ⟨events, hfolded⟩ := h.folded
        ⟨events, hmore ▸ hfolded.append more⟩
      seenEnd := fun hsource =>
        have ⟨events, hfolded, hend⟩ := h.seenEnd hsource
        ⟨events, hmore ▸ hfolded.append more, hend⟩ }

end Invariant

/-! ## Runs -/

section Runs

variable [Chrono] [JsonText F]

def step (s : RunStream F) : Action F → Option (RunStream F)
  | .run runStep =>
      (s.handle.advance runStep).map fun handle => { s with handle := handle }
  | .connection connected =>
      if s.source then
        some { s with view := s.view.reduce (.connection connected) }
      else
        none
  | .message none => if s.source then some s else none
  | .message (some position) =>
      if s.source then (s.handle.emitted[position]?).map s.receive else none
  | .timeout => if s.flushTimer then some s.flush else none
  | .effect =>
      if s.source = true ∧ s.view.state.any RunState.isTerminal = true then
        some s.disconnect
      else
        none

/-- A run and a browser client, interleaved in any order.  Any frame of the run
may come at any time and any number of times. -/
def system (runId : String) : TransitionSystem (RunStream F) (Action F) where
  initial s := ∃ id replayBuffer channel,
    s = connect runId id replayBuffer channel
  step := step

namespace Invariant

variable {runId : String} {s t : RunStream F}

/-- One step of the run or of the client. -/
theorem step (h : s.Invariant runId) {action : Action F}
    (htime : s.InTime action) (hstep : s.step action = some t) :
    t.Invariant runId := by
  cases action with
  | run runStep =>
      obtain ⟨handle, hadvance, rfl⟩ := Option.map_eq_some_iff.mp hstep
      exact h.run (h.ends.advance hadvance)
  | connection connected =>
      rw [RunStream.step, Option.ite_none_right_eq_some,
        Option.some_inj] at hstep
      exact hstep.2 ▸ h.connection connected
  | message position =>
      cases position with
      | none =>
          rw [RunStream.step, Option.ite_none_right_eq_some,
            Option.some_inj] at hstep
          exact hstep.2 ▸ h
      | some position =>
          rw [RunStream.step, Option.ite_none_right_eq_some] at hstep
          obtain ⟨envelope, hget, rfl⟩ := Option.map_eq_some_iff.mp hstep.2
          exact h.receive (List.mem_of_getElem? hget)
  | timeout =>
      rw [RunStream.step, Option.ite_none_right_eq_some,
        Option.some_inj] at hstep
      exact hstep.2 ▸ h.flush
  | effect =>
      rw [RunStream.step, Option.ite_none_right_eq_some,
        Option.some_inj] at hstep
      obtain ⟨⟨-, hterminal⟩, rfl⟩ := hstep
      exact h.disconnect htime hterminal

end Invariant

/-- A client that looks in time closes its source behind the terminal event. -/
theorem seenEnd_of_reaches {runId : String} {s : RunStream F}
    (h : (system runId).Reaches InTime s) (hsource : s.source = false) :
    s.SeenEnd runId := by
  have hinvariant : s.Invariant runId := by
    refine h.invariant (fun s hs => ?_)
      fun _ _ _ hinv htime hstep => hinv.step htime hstep
    obtain ⟨id, replayBuffer, channel, rfl⟩ := hs
    exact Invariant.connect id replayBuffer channel
  exact hinvariant.seenEnd hsource

def running (runId : String) :
    RunHandle.Running (system (F := F) runId) F where
  handle := RunStream.handle
  withHandle s handle := { s with handle := handle }
  run := .run
  handle_withHandle _ _ := rfl
  withHandle_withHandle _ _ _ := rfl
  withHandle_handle _ := rfl
  step_run _ _ := rfl

end Runs

/-! ## A client that looks in time -/

open scoped StandIns

open RunHandle (quietRun refusedRun replayBufferSize)

open Follow (quietInvalidated)

def attentiveClient : RunStream Float :=
  connect "run" quietRun 1 1

/-- The client has seen the only event of its run. -/
def endedClient : RunStream Float :=
  { attentiveClient with
    handle := Dashboard.promptDashboard.handle }.receive
      ((RunHandle.new quietRun 1 1).envelope ⟨0, 0⟩ quietInvalidated)

theorem reaches_endedClient :
    (system "run").Reaches InTime endedClient.disconnect := by
  have hemitted : (system "run").Reaches InTime
      { attentiveClient with handle := Dashboard.promptDashboard.handle } :=
    .step (.initial ⟨quietRun, 1, 1, rfl⟩)
      (a := .run (.emit ⟨0, 0⟩ quietInvalidated)) trivial rfl
  have hreceived : (system "run").Reaches InTime endedClient :=
    .step hemitted (a := .message (some 0)) trivial rfl
  exact .step hreceived (a := .effect) (fun _ => rfl) rfl

def freshClient : RunStream Float :=
  connect "run" quietRun replayBufferSize replayBufferSize

/-- A batch ends with the refusal of the run. -/
def hasty : List (Action Float) :=
  Dashboard.refusal.map .run ++
    [.connection true, .message (some 0), .message (some 1),
      .message (some 2), .timeout, .effect]

/-- The client closes its source at the refusal. -/
theorem runFrom_hasty :
    ∃ s, (system "run").runFrom freshClient hasty = some s ∧
      s.source = false ∧ s.handle = Dashboard.refusalHandle := by
  have hrun : (system "run").runFrom freshClient
      (Dashboard.refusal.map .run) =
        some { freshClient with handle := Dashboard.refusalHandle } :=
    (running "run").runFrom_run Dashboard.advanceAll_refusal
  have hrest : ((system "run").runFrom
      { freshClient with handle := Dashboard.refusalHandle }
        [.connection true, .message (some 0), .message (some 1),
          .message (some 2), .timeout, .effect]).isSome = true :=
    rfl
  refine ⟨Option.get _ hrest, ?_, rfl, rfl⟩
  rw [hasty, TransitionSystem.runFrom_append, hrun, Option.bind_some]
  exact (Option.some_get hrest).symm

end RunStream

end Darcbench
