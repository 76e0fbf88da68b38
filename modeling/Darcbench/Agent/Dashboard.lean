import Darcbench.Agent.Drain
import Darcbench.Agent.Follow

/-!
# When the dashboard stops

Behind every drain the dashboard looks at the state of its view and at the
state that the run has published, and stops when one of them is terminal.  The
dashboard holds the handle of the run, so its channel is never closed.
-/

namespace Darcbench

variable {F : Type} [F64 F]

/-- The dashboard, and whether it has stopped. -/
structure Dashboard (F : Type) [F64 F] extends Drain F where
  stopped : Bool

namespace Dashboard

inductive Action (F : Type) [F64 F] where
  | run (runStep : RunHandle.RunStep F)
  | subscribe
  | backlog
  | drain
  | tryRecv
  | reread
  | check

/-! ## The frame loop -/

/-- A step that the dashboard makes until it stops. -/
def lift (f : Drain F → Option (Drain F)) (s : Dashboard F) :
    Option (Dashboard F) :=
  if s.stopped then
    none
  else
    (f s.toDrain).map fun drain => { s with toDrain := drain }

/-- The next tick drains the channel. -/
def drain (s : Drain F) : Option (Drain F) :=
  match s.pc with
  | .returned none => s.drain
  | _ => none

/-- Looks at the two states behind a drain. -/
def check (s : Dashboard F) : Option (Dashboard F) :=
  match s.pc with
  | .returned (some stream) =>
      if s.stopped then
        none
      else if s.view.state.isTerminal || s.handle.state.isTerminal then
        let state :=
          if s.view.state.isTerminal then s.view.state else s.handle.state
        some { s with view := { s.view with state := state }, stopped := true }
      else if stream = .closed then
        some { s with stopped := true }
      else
        some { s with pc := .returned none }
  | _ => none

/-- A dashboard beside a run that has not begun. -/
def start (profile : Profile) (id : RunId) (replayBuffer channel : ℕ) :
    Dashboard F where
  handle := RunHandle.new id replayBuffer channel
  receiver := 0
  view := View.new profile
  pc := .starting
  stopped := false

/-! ## What the operator can rely on -/

/-- The view is the fold of some events of the run, the terminal one among
them.  The last frame may show the published state. -/
def SeenEnd (profile : Profile) (s : Dashboard F) : Prop :=
  ∃ events state,
    View.observer.toSequencedFold.FoldedFrom (View.new profile)
        s.handle.emitted { s.view with state := state } events ∧
      ∃ e ∈ events, e.event.isStreamTerminal = true

/-- The terminal event has been received. -/
def ReceivedEnd (s : Drain F) : Prop :=
  ∃ e ∈ s.handle.emitted, e.event.isStreamTerminal = true ∧
    e.seq < s.receiver

/-- An event that the view does not wait for any more. -/
def Passed (s : Drain F) (e : Envelope F) : Prop :=
  e ∈ s.handle.emitted ∧ e.seq < View.observer.next s.view

/-- The terminal event is not pushed out of the channel or the replay buffer
by what follows it.  A terminal state is not published between a drain that has
not received the terminal event and the look behind it.  And the dashboard does
not look while a refused preflight is the last that it knows of the end. -/
def InTime [Chrono] [JsonText F] (s : Dashboard F) : Action F → Prop
  | .run (.emit now event) => (s.handle.emit now event).KeepsEnd
  | .run (.setState state) =>
      state.isTerminal = true → (∃ stream, s.pc = .returned (some stream)) →
        ReceivedEnd s.toDrain
  | .check =>
      (∃ e, Passed s.toDrain e ∧ e.event.isRefusal = true) →
        ∃ e, Passed s.toDrain e ∧ e.event.isStreamTerminal = true
  | _ => True

/-! ## The invariant -/

/-- What the view has folded.  No terminal event was passed over. -/
def Folds (profile : Profile) (s : Drain F) : Prop :=
  View.observer.toSequencedFold.Folds (View.new profile) s.handle.emitted
    (fun e => e.event.isStreamTerminal = true) s.view

/-- The invariant of the dashboard until it stops. -/
structure Following (profile : Profile) (s : Drain F) : Prop where
  ends : s.handle.Ends
  opened : s.handle.tx.closed = false
  kept : s.handle.KeepsEnd
  folds : Folds profile s
  receiver_le : s.receiver ≤ s.handle.emitted.length
  /-- A terminal event that was received has been folded. -/
  received : s.pc ≠ .subscribed → ∀ e ∈ s.handle.emitted,
    e.event.isStreamTerminal = true → e.seq < s.receiver →
      e.seq < View.observer.next s.view
  /-- A drain does not return before it has received the terminal event of a
  run that has published its end. -/
  published : (∃ stream, s.pc = .returned (some stream)) →
    s.handle.state.isTerminal = true → ReceivedEnd s
  returned : s.pc ≠ .returned (some .closed)

namespace Following

variable {profile : Profile} {s t : Drain F}

theorem subscribe (h : Following profile s) (hstep : s.subscribe = some t) :
    Following profile t := by
  obtain ⟨handle, receiver, view, pc⟩ := s
  cases pc with
  | starting =>
      obtain rfl := Option.some.inj hstep
      exact
        { ends := h.ends
          opened := h.opened
          kept := h.kept
          folds := h.folds
          receiver_le := le_rfl
          received := by simp
          published := by simp
          returned := by simp }
  | _ => exact absurd hstep (by simp [Drain.subscribe])

theorem backlog (h : Following profile s) (hstep : s.backlog = some t) :
    Following profile t := by
  obtain ⟨handle, receiver, view, pc⟩ := s
  cases pc with
  | subscribed =>
      obtain rfl := Option.some.inj hstep
      have hsound : handle.Sound := h.ends.toSound
      have hkept : handle.KeepsEnd := h.kept
      have hevents : View.observer.foldAll view
          ((handle.eventsSince none).getD []) =
            (handle.emitted.drop handle.firstBuffered).foldl
              View.observer.toSequencedFold.fold view :=
        (congrArg _ hsound.events_eq).trans (Observer.foldAll_eq _ _)
      have hfolds : Folds profile
          { handle, receiver, pc := .subscribed,
            view := View.observer.foldAll view
              ((handle.eventsSince none).getD []) } := by
        rw [Folds, hevents]
        exact h.folds.foldl_drop hsound.numbered fun e he hend _ =>
          (hkept e he hend).2
      have hreceived : ∀ e ∈ handle.emitted,
          e.event.isStreamTerminal = true →
            e.seq < View.observer.next (View.observer.foldAll view
              ((handle.eventsSince none).getD [])) := by
        intro e he hend
        rw [hevents]
        exact SequencedFold.seq_lt_next_foldl
          (f := View.observer.toSequencedFold)
          (hsound.numbered.mem_drop_iff.mpr ⟨he, (hkept e he hend).2⟩) view
      exact
        { ends := h.ends
          opened := h.opened
          kept := hkept
          folds := hfolds
          receiver_le := h.receiver_le
          received := fun _ e he hend _ => hreceived e he hend
          published := by simp
          returned := by simp }
  | _ => exact absurd hstep (by simp [Drain.backlog])

theorem drain (h : Following profile s) (hstep : Dashboard.drain s = some t) :
    Following profile t := by
  obtain ⟨handle, receiver, view, pc⟩ := s
  cases pc with
  | returned stream =>
      cases stream with
      | none =>
          obtain rfl := Option.some.inj hstep
          exact
            { ends := h.ends
              opened := h.opened
              kept := h.kept
              folds := h.folds
              receiver_le := h.receiver_le
              received := fun _ => h.received (by simp)
              published := by simp
              returned := by simp }
      | some stream => exact absurd hstep (by simp [Dashboard.drain])
  | _ => exact absurd hstep (by simp [Dashboard.drain])

theorem tryRecv (h : Following profile s) (hstep : s.tryRecv = some t) :
    Following profile t := by
  obtain ⟨handle, receiver, view, pc⟩ := s
  cases pc with
  | receiving =>
      have hsound : handle.Sound := h.ends.toSound
      have hkept : handle.KeepsEnd := h.kept
      have hreceived := h.received (by simp)
      cases hrecv : handle.tx.tryRecv receiver with
      | mk reception after =>
          simp only [Drain.tryRecv, hrecv] at hstep
          cases reception with
          | item envelope =>
              obtain ⟨-, hget, rfl⟩ := Broadcast.item_of_tryRecv hrecv
              obtain rfl := Option.some.inj hstep
              have hseq := hsound.numbered.seq_of_getElem? hget
              have hnext : View.observer.next (view.fold envelope) =
                  max (View.observer.next view) (receiver + 1) := by
                rw [View.fold, Observer.next_fold, hseq]
              have hfolds : Folds profile
                  { handle, receiver := receiver + 1, pc := .receiving,
                    view := view.fold envelope } := by
                rw [Folds, View.fold, Observer.fold_eq]
                refine h.folds.fold hsound.numbered
                  (List.mem_of_getElem? hget) fun e he hend hle => ?_
                -- A terminal event behind the receiver has been folded.
                have hahead : ¬ e.seq < receiver := fun hlt =>
                  absurd (hreceived e he hend hlt) (Nat.not_lt.mpr hle)
                exact hseq.le.trans (Nat.not_lt.mp hahead)
              exact
                { ends := h.ends
                  opened := h.opened
                  kept := hkept
                  folds := hfolds
                  receiver_le := (List.getElem?_eq_some_iff.mp hget).1
                  received := fun _ e _ _ hlt =>
                    hnext ▸ Nat.lt_of_lt_of_le hlt (Nat.le_max_right _ _)
                  published := by simp
                  returned := by simp }
          | lagged missed =>
              obtain ⟨-, rfl⟩ := Broadcast.lagged_of_tryRecv hrecv
              obtain rfl := Option.some.inj hstep
              exact
                { ends := h.ends
                  opened := h.opened
                  kept := hkept
                  folds := h.folds
                  receiver_le := handle.tx.oldest_le_length
                  received := fun _ e he hend hlt =>
                    absurd hlt (Nat.not_lt.mpr (hkept e he hend).1)
                  published := by simp
                  returned := by simp }
          | empty =>
              obtain ⟨hlength, -⟩ := Broadcast.empty_of_tryRecv hrecv
              obtain rfl := Option.some.inj hstep
              exact
                { ends := h.ends
                  opened := h.opened
                  kept := hkept
                  folds := h.folds
                  receiver_le := h.receiver_le
                  received := fun _ => hreceived
                  published := by
                    intro _ hterminal
                    obtain ⟨e, he, hend⟩ :=
                      RunHandle.hasEnded_iff.mp (h.ends.published hterminal)
                    exact ⟨e, he, hend,
                      (hsound.numbered.seq_lt_length he).trans_le hlength⟩
                  returned := by simp }
          | closed =>
              have hclosed := (Broadcast.closed_of_tryRecv hrecv).1
              exact absurd (h.opened.symm.trans hclosed) (by simp)
  | _ => exact absurd hstep (by simp [Drain.tryRecv])

theorem reread (h : Following profile s) (hstep : s.reread = some t) :
    Following profile t := by
  obtain ⟨handle, receiver, view, pc⟩ := s
  cases pc with
  | rereading =>
      obtain rfl := Option.some.inj hstep
      have hreceived := h.received (by simp)
      exact
        { ends := h.ends
          opened := h.opened
          kept := h.kept
          folds := Observer.folds_catchUp h.folds h.ends.toSound
            fun e he hend => (h.kept e he hend).2
          receiver_le := h.receiver_le
          received := fun _ e he hend hlt =>
            (hreceived e he hend hlt).trans_le (Observer.le_next_foldAll _ _)
          published := by simp
          returned := by simp }
  | _ => exact absurd hstep (by simp [Drain.reread])

/-- A step of the run.  A terminal state is published in time. -/
theorem run (h : Following profile s) {handle : RunHandle F}
    (hadvance : s.handle.Advances handle) (hkept : handle.KeepsEnd)
    (hpublished : handle.state.isTerminal = true →
      (∃ stream, s.pc = .returned (some stream)) → ReceivedEnd s) :
    Following profile { s with handle := handle } := by
  obtain ⟨more, hmore⟩ := hadvance.emitted_eq
  exact
    { ends := hadvance.ends
      opened := hadvance.closed_eq.trans h.opened
      kept := hkept
      folds := by
        rw [Folds, hmore]
        exact h.folds.append fun e he => hadvance.seq_ge e (hmore ▸ he)
      receiver_le := by
        rw [hmore, List.length_append]
        exact h.receiver_le.trans (Nat.le_add_right _ _)
      received := fun hpc e he hend hlt =>
        (hadvance.seq_ge e he).elim
          (fun hold => h.received hpc e hold hend hlt)
          fun hnew => absurd (hlt.trans_le h.receiver_le)
            (Nat.not_lt.mpr hnew)
      published := fun hpc hterminal =>
        have ⟨e, he, hend⟩ := hpublished hterminal hpc
        ⟨e, hmore ▸ List.mem_append_left more he, hend⟩
      returned := h.returned }

/-- A terminal event that the view does not wait for is among its events. -/
theorem seenEnd (h : Following profile s) {e : Envelope F}
    (hpassed : Passed s e) (hend : e.event.isStreamTerminal = true)
    (state : RunState) :
    SeenEnd profile
      { toDrain := { s with view := { s.view with state := state } }
        stopped := true } := by
  obtain ⟨events, hfolded, hkept⟩ := h.folds
  exact ⟨events, s.view.state, hfolded, e,
    hkept e hpassed.1 hend hpassed.2, hend⟩

/-- A look that finds a terminal state finds it behind the terminal event. -/
theorem exists_passed (h : Following profile s) {stream : Drain.Stream}
    (hpc : s.pc = .returned (some stream))
    (hlook : s.view.state.isTerminal = true ∨
      s.handle.state.isTerminal = true)
    (hrefusal : (∃ e, Passed s e ∧ e.event.isRefusal = true) →
      ∃ e, Passed s e ∧ e.event.isStreamTerminal = true) :
    ∃ e, Passed s e ∧ e.event.isStreamTerminal = true := by
  rcases hlook with hview | hrun
  · obtain ⟨events, hfolded, -⟩ := h.folds
    have hstate : (events.foldl View.apply
        (View.new profile)).state.isTerminal = true :=
      hfolded.state_eq ▸ hview
    rcases View.terminal_or_refusal_of_foldl hstate rfl with
      ⟨e, he, hend⟩ | ⟨e, he, hrefused⟩
    · exact ⟨e, ⟨hfolded.mem e he, hfolded.seq_lt e he⟩, hend⟩
    · exact hrefusal
        ⟨e, ⟨hfolded.mem e he, hfolded.seq_lt e he⟩, hrefused⟩
  · obtain ⟨e, he, hend, hlt⟩ := h.published ⟨stream, hpc⟩ hrun
    have hnext := h.received (by simp [hpc]) e he hend hlt
    exact ⟨e, ⟨he, hnext⟩, hend⟩

end Following

/-- The invariant of the system. -/
structure Invariant (profile : Profile) (s : Dashboard F) : Prop where
  following : s.stopped = false → Following profile s.toDrain
  ends : s.handle.Ends
  seenEnd : s.stopped = true → s.SeenEnd profile

namespace Invariant

variable {profile : Profile} {s t : Dashboard F}

theorem start (id : RunId) (replayBuffer channel : ℕ) :
    (Dashboard.start (F := F) profile id replayBuffer channel).Invariant
      profile where
  following _ :=
    { ends := RunHandle.Ends.new id replayBuffer channel
      opened := rfl
      kept := fun _ he => nomatch he
      folds := SequencedFold.Folds.nil rfl _
      receiver_le := Nat.zero_le _
      received := fun _ _ he => nomatch he
      published := by simp [Dashboard.start]
      returned := by simp [Dashboard.start] }
  ends := RunHandle.Ends.new id replayBuffer channel
  seenEnd := by simp [Dashboard.start]

/-- The steps up to the look. -/
theorem lift {f : Drain F → Option (Drain F)}
    (hf : ∀ {d d' : Drain F}, Following profile d → f d = some d' →
      Following profile d')
    (h : s.Invariant profile) (hstep : s.lift f = some t) :
    t.Invariant profile := by
  rw [Dashboard.lift] at hstep
  split at hstep
  · exact absurd hstep (by simp)
  · next hstopped =>
      obtain ⟨drain, hdrain, rfl⟩ := Option.map_eq_some_iff.mp hstep
      have hfollowing :=
        hf (h.following (Bool.eq_false_of_not_eq_true hstopped)) hdrain
      exact ⟨fun _ => hfollowing, hfollowing.ends,
        fun hstop => absurd hstop hstopped⟩

theorem check [Chrono] [JsonText F] (h : s.Invariant profile)
    (htime : s.InTime .check) (hstep : s.check = some t) :
    t.Invariant profile := by
  obtain ⟨⟨handle, receiver, view, pc⟩, stopped⟩ := s
  cases pc with
  | returned stream =>
      cases stream with
      | none => exact absurd hstep (by simp [Dashboard.check])
      | some stream =>
          cases stopped with
          | true => exact absurd hstep (by simp [Dashboard.check])
          | false =>
              have hfollowing := h.following rfl
              have hopened : stream ≠ .closed := fun hclosed =>
                hfollowing.returned (by rw [hclosed])
              simp only [Dashboard.check, Bool.false_eq_true, if_false,
                if_neg hopened, Bool.or_eq_true] at hstep
              by_cases hlook : view.state.isTerminal = true ∨
                  handle.state.isTerminal = true
              · rw [if_pos hlook] at hstep
                obtain rfl := Option.some.inj hstep
                obtain ⟨e, hpassed, hend⟩ :=
                  hfollowing.exists_passed rfl hlook htime
                exact ⟨fun hstop => absurd hstop (by simp), hfollowing.ends,
                  fun _ => hfollowing.seenEnd hpassed hend _⟩
              · rw [if_neg hlook] at hstep
                obtain rfl := Option.some.inj hstep
                exact
                  { following := fun _ =>
                      { ends := hfollowing.ends
                        opened := hfollowing.opened
                        kept := hfollowing.kept
                        folds := hfollowing.folds
                        receiver_le := hfollowing.receiver_le
                        received := fun _ => hfollowing.received (by simp)
                        published := by simp
                        returned := by simp }
                    ends := hfollowing.ends
                    seenEnd := fun hstop => absurd hstop (by simp) }
  | _ => exact absurd hstep (by simp [Dashboard.check])

end Invariant

/-- A look that finds a terminal state. -/
theorem step_check {s : Dashboard F} {stream : Drain.Stream}
    (hstopped : s.stopped = false) (hpc : s.pc = .returned (some stream))
    (hlook : s.view.state.isTerminal = true ∨
      s.handle.state.isTerminal = true) :
    ∃ state, s.check = some
      { s with view := { s.view with state := state }, stopped := true } := by
  rw [← Bool.or_eq_true] at hlook
  rw [check, hpc, hstopped, hlook]
  exact ⟨_, rfl⟩

/-! ## Runs -/

section Runs

variable [Chrono] [JsonText F]

def step (s : Dashboard F) : Action F → Option (Dashboard F)
  | .run runStep =>
      (s.handle.advance runStep).map fun handle => { s with handle := handle }
  | .subscribe => s.lift Drain.subscribe
  | .backlog => s.lift Drain.backlog
  | .drain => s.lift Dashboard.drain
  | .tryRecv => s.lift Drain.tryRecv
  | .reread => s.lift Drain.reread
  | .check => s.check

/-- A run and its dashboard, interleaved in any order. -/
def system (profile : Profile) : TransitionSystem (Dashboard F) (Action F) where
  initial s := ∃ id replayBuffer channel,
    s = start profile id replayBuffer channel
  step := step

namespace Invariant

variable {profile : Profile} {s t : Dashboard F}

theorem run (h : s.Invariant profile) {runStep : RunHandle.RunStep F}
    (htime : s.InTime (.run runStep))
    (hstep : s.step (.run runStep) = some t) :
    t.Invariant profile := by
  obtain ⟨handle, hadvance, rfl⟩ := Option.map_eq_some_iff.mp hstep
  have hadvances := h.ends.advance hadvance
  refine ⟨fun hstopped => ?_, hadvances.ends, fun hstopped => ?_⟩
  · have hfollowing := h.following hstopped
    cases runStep with
    | emit now event =>
        rw [RunHandle.advance, Option.ite_none_right_eq_some,
          Option.some_inj] at hadvance
        obtain ⟨-, rfl⟩ := hadvance
        exact hfollowing.run hadvances htime fun hterminal hpc =>
          hfollowing.published hpc hterminal
    | setState state =>
        rw [RunHandle.advance, Option.ite_none_right_eq_some,
          Option.some_inj] at hadvance
        obtain ⟨-, rfl⟩ := hadvance
        exact hfollowing.run hadvances hfollowing.kept htime
  · obtain ⟨events, state, hfolded, hend⟩ := h.seenEnd hstopped
    obtain ⟨more, hmore⟩ := hadvances.emitted_eq
    exact ⟨events, state, hmore ▸ hfolded.append more, hend⟩

/-- One step of the run or of the dashboard. -/
theorem step (h : s.Invariant profile) {action : Action F}
    (htime : s.InTime action) (hstep : s.step action = some t) :
    t.Invariant profile := by
  cases action with
  | run runStep => exact h.run htime hstep
  | subscribe => exact h.lift Following.subscribe hstep
  | backlog => exact h.lift Following.backlog hstep
  | drain => exact h.lift Following.drain hstep
  | tryRecv => exact h.lift Following.tryRecv hstep
  | reread => exact h.lift Following.reread hstep
  | check => exact h.check htime hstep

end Invariant

/-- A dashboard that looks in time stops behind the terminal event. -/
theorem seenEnd_of_reaches {profile : Profile} {s : Dashboard F}
    (h : (system profile).Reaches InTime s) (hstopped : s.stopped = true) :
    s.SeenEnd profile := by
  have hinvariant : s.Invariant profile := by
    refine h.invariant (fun s hs => ?_)
      fun _ _ _ hinv htime hstep => hinv.step htime hstep
    obtain ⟨id, replayBuffer, channel, rfl⟩ := hs
    exact Invariant.start id replayBuffer channel
  exact hinvariant.seenEnd hstopped

def running (profile : Profile) :
    RunHandle.Running (system (F := F) profile) F where
  handle s := s.handle
  withHandle s handle := { s with handle := handle }
  run := .run
  handle_withHandle _ _ := rfl
  withHandle_withHandle _ _ _ := rfl
  withHandle_handle _ := rfl
  step_run _ _ := rfl

/-- A dashboard that has not stopped receives as a drain does. -/
theorem runFrom_tryRecv (profile : Profile) {s : Dashboard F}
    (hstopped : s.stopped = false) {count : ℕ} {drain : Drain F}
    (h : (Drain.system profile).runFrom s.toDrain
      (List.replicate count .tryRecv) = some drain) :
    (system profile).runFrom s (List.replicate count .tryRecv) =
      some { s with toDrain := drain } := by
  induction count generalizing s with
  | zero =>
      obtain rfl := Option.some.inj h
      rfl
  | succ count ih =>
      obtain ⟨next, hnext, hrest⟩ := Option.bind_eq_some_iff.mp h
      have hstep : (system profile).step s .tryRecv =
          some { s with toDrain := next } := by
        have hlift : s.lift Drain.tryRecv =
            some { s with toDrain := next } := by
          rw [lift, hstopped]
          exact Option.map_eq_some_iff.mpr ⟨next, hnext, rfl⟩
        exact hlift
      rw [List.replicate_succ, TransitionSystem.runFrom, hstep,
        Option.bind_some]
      exact ih hstopped hrest

end Runs

/-! ## A dashboard that looks in time -/

open scoped StandIns

open RunHandle (quietRun refusedRun refusedHandle replayBufferSize)

open Follow (quietInvalidated)

def attentiveDashboard : Dashboard Float :=
  start .quick quietRun 1 1

/-- The dashboard has stopped behind the only event of its run. -/
def promptDashboard : Dashboard Float where
  handle := (RunHandle.new quietRun 1 1).emit ⟨0, 0⟩ quietInvalidated
  receiver := 1
  view := (View.new .quick).fold
    ((RunHandle.new quietRun 1 1).envelope ⟨0, 0⟩ quietInvalidated)
  pc := .returned (some .opened)
  stopped := true

theorem reaches_promptDashboard :
    (system .quick).Reaches InTime promptDashboard := by
  have hsubscribed : (system .quick).Reaches InTime
      { attentiveDashboard with pc := .subscribed } :=
    .step (.initial ⟨quietRun, 1, 1, rfl⟩) (a := .subscribe) trivial rfl
  have hready : (system .quick).Reaches InTime
      { attentiveDashboard with pc := .returned none } :=
    .step hsubscribed (a := .backlog) trivial rfl
  have hkept : promptDashboard.handle.KeepsEnd := fun _ _ _ =>
    ⟨Nat.zero_le _, Nat.zero_le _⟩
  have hemitted : (system .quick).Reaches InTime
      { attentiveDashboard with
        pc := .returned none
        handle := promptDashboard.handle } :=
    .step hready (a := .run (.emit ⟨0, 0⟩ quietInvalidated)) hkept rfl
  have hreceiving : (system .quick).Reaches InTime
      { attentiveDashboard with
        pc := .receiving
        handle := promptDashboard.handle } :=
    .step hemitted (a := .drain) trivial rfl
  have hreceived : (system .quick).Reaches InTime
      { promptDashboard with pc := .receiving, stopped := false } :=
    .step hreceiving (a := .tryRecv) trivial rfl
  have hreturned : (system .quick).Reaches InTime
      { promptDashboard with stopped := false } :=
    .step hreceived (a := .tryRecv) trivial rfl
  exact .step hreturned (a := .check)
    (fun _ => ⟨_, ⟨List.mem_singleton_self _, Nat.one_pos⟩, rfl⟩) rfl

/-! ## A dashboard that looks too early -/

def freshDashboard : Dashboard Float :=
  start .quick quietRun replayBufferSize replayBufferSize

/-- The run up to its refusal. -/
def refusal : List (RunHandle.RunStep Float) :=
  refusedRun.take 4

def refusalHandle : RunHandle Float :=
  ((RunHandle.new quietRun replayBufferSize replayBufferSize).advanceAll
    refusal).get rfl

theorem advanceAll_refusal :
    (RunHandle.new quietRun replayBufferSize replayBufferSize).advanceAll
      refusal = some refusalHandle :=
  (Option.some_get _).symm

theorem oldest_refusalHandle : refusalHandle.tx.oldest = 0 := by
  have hcapacity : refusalHandle.tx.capacity = replayBufferSize := rfl
  have hlength : refusalHandle.tx.sent.length = 3 := rfl
  rw [Broadcast.oldest, hcapacity, hlength]
  rfl

/-- A refusal is not the end of the run. -/
theorem not_terminal_of_mem_refusal {e : Envelope Float}
    (he : e ∈ refusalHandle.emitted) :
    ¬ e.event.isStreamTerminal = true := by
  have hnone : (refusalHandle.emitted.all fun e =>
      !e.event.isStreamTerminal) = true :=
    rfl
  have hopen := List.all_eq_true.mp hnone e he
  rwa [Bool.not_eq_eq_eq_not, Bool.not_true, ← Bool.not_eq_true] at hopen

/-- The dashboard draws a frame right behind the refusal. -/
def hasty : List (Action Float) :=
  [.subscribe, .backlog] ++ refusal.map .run ++ [.drain] ++
    List.replicate 4 .tryRecv ++ [.check]

/-- The run happens between a drain and the look behind it. -/
def overtaken : List (Action Float) :=
  [.subscribe, .backlog, .drain, .tryRecv] ++ refusedRun.map .run ++ [.check]

/-- The dashboard stops at the refusal. -/
theorem runFrom_hasty :
    ∃ s, (system .quick).runFrom freshDashboard hasty = some s ∧
      s.stopped = true ∧ s.handle = refusalHandle := by
  have hopen : (system .quick).runFrom freshDashboard [.subscribe, .backlog] =
      some { freshDashboard with pc := .returned none } :=
    rfl
  have hrun : (system .quick).runFrom
      { freshDashboard with pc := .returned none } (refusal.map .run) =
        some { freshDashboard with
          pc := .returned none
          handle := refusalHandle } :=
    (running .quick).runFrom_run advanceAll_refusal
  have hdrain : (system .quick).runFrom
      { freshDashboard with
        pc := .returned none
        handle := refusalHandle } [.drain] =
      some { freshDashboard with
        pc := .receiving
        handle := refusalHandle } :=
    rfl
  have hdrained : (Drain.system .quick).runFrom
      { handle := refusalHandle
        receiver := 0
        view := View.new .quick
        pc := .receiving } (List.replicate (3 + 1) .tryRecv) =
      some
        { handle := refusalHandle
          receiver := refusalHandle.emitted.length
          view := View.observer.foldAll (View.new .quick)
            (refusalHandle.emitted.drop 0)
          pc := .returned (some .opened) } := by
    refine Drain.runFrom_tryRecv .quick rfl ?_ ?_ ?_
    · rfl
    · simp only
      rw [oldest_refusalHandle]
    · rfl
  have hrecv := runFrom_tryRecv .quick
    (s := { freshDashboard with pc := .receiving, handle := refusalHandle })
    rfl hdrained
  obtain ⟨state, hcheck⟩ := step_check
    (s := { freshDashboard with
      handle := refusalHandle
      receiver := refusalHandle.emitted.length
      view := View.observer.foldAll (View.new .quick)
        (refusalHandle.emitted.drop 0)
      pc := .returned (some .opened) }) rfl rfl (.inl rfl)
  refine ⟨
    { handle := refusalHandle
      receiver := refusalHandle.emitted.length
      view :=
        { View.observer.foldAll (View.new .quick)
            (refusalHandle.emitted.drop 0) with
          state := state }
      pc := .returned (some .opened)
      stopped := true }, ?_, rfl, rfl⟩
  rw [hasty, TransitionSystem.runFrom_append,
    TransitionSystem.runFrom_append, TransitionSystem.runFrom_append,
    TransitionSystem.runFrom_append, hopen, Option.bind_some, hrun,
    Option.bind_some, hdrain, Option.bind_some, hrecv, Option.bind_some]
  exact Option.bind_eq_some_iff.mpr ⟨_, hcheck, rfl⟩

/-- The dashboard stops before it has folded anything. -/
theorem runFrom_overtaken :
    ∃ s, (system .quick).runFrom freshDashboard overtaken = some s ∧
      s.stopped = true ∧ View.observer.next s.view = 0 := by
  have hopen : (system .quick).runFrom freshDashboard
      [.subscribe, .backlog, .drain, .tryRecv] =
        some { freshDashboard with pc := .returned (some .opened) } :=
    rfl
  have hrun : (system .quick).runFrom
      { freshDashboard with pc := .returned (some .opened) }
      (refusedRun.map .run) =
        some { freshDashboard with
          pc := .returned (some .opened)
          handle := refusedHandle } :=
    (running .quick).runFrom_run RunHandle.advanceAll_refusedRun
  obtain ⟨state, hcheck⟩ := step_check
    (s := { freshDashboard with
      handle := refusedHandle
      pc := .returned (some .opened) }) rfl rfl (.inr rfl)
  refine ⟨
    { handle := refusedHandle
      receiver := 0
      view := { View.new .quick with state := state }
      pc := .returned (some .opened)
      stopped := true }, ?_, rfl, rfl⟩
  rw [overtaken, TransitionSystem.runFrom_append,
    TransitionSystem.runFrom_append, hopen, Option.bind_some, hrun,
    Option.bind_some]
  exact Option.bind_eq_some_iff.mpr ⟨_, hcheck, rfl⟩

/-- One dashboard stops at the refusal of its run, and another one at the end
of a run that it has seen nothing of. -/
theorem not_seenEnd :
    (system .quick).initial freshDashboard ∧
      (∃ s, (system .quick).runFrom freshDashboard hasty = some s ∧
        s.stopped = true ∧ ¬ s.SeenEnd .quick) ∧
      ∃ s, (system .quick).runFrom freshDashboard overtaken = some s ∧
        s.stopped = true ∧ ¬ s.SeenEnd .quick := by
  refine ⟨⟨_, _, _, rfl⟩, ?_, ?_⟩
  · obtain ⟨s, hs, hstopped, hhandle⟩ := runFrom_hasty
    refine ⟨s, hs, hstopped, ?_⟩
    rintro ⟨events, state, hfolded, e, he, hend⟩
    have hmem : e ∈ refusalHandle.emitted := hhandle ▸ hfolded.mem e he
    exact not_terminal_of_mem_refusal hmem hend
  · obtain ⟨s, hs, hstopped, hnext⟩ := runFrom_overtaken
    refine ⟨s, hs, hstopped, ?_⟩
    rintro ⟨events, state, hfolded, e, he, -⟩
    have hlt : e.seq < View.observer.next s.view := hfolded.seq_lt e he
    exact Nat.not_lt_zero _ (hnext ▸ hlt)

end Dashboard

end Darcbench
