import Darcbench.Agent.Emitting
import Darcbench.Agent.Replayed
import Darcbench.Agent.View

/-!
# Draining the channel into the view

On every frame the dashboard folds what has arrived on its channel.  When the
receiver lags, the dashboard reads the replay buffer again and goes on.
-/

namespace Darcbench

variable {F : Type} [F64 F]

namespace Drain

inductive Stream where
  | opened
  | closed
  deriving DecidableEq

/-- Where the dashboard is in its code. -/
inductive Pc where
  | starting
  | subscribed
  /-- Between two calls.  The last one, if any, returned this. -/
  | returned (stream : Option Stream)
  | receiving
  | rereading
  deriving DecidableEq

end Drain

open Drain in
/-- The dashboard and the run it follows. -/
structure Drain (F : Type) [F64 F] where
  handle : RunHandle F
  receiver : ℕ
  view : View F
  pc : Pc

namespace Drain

inductive Action (F : Type) [F64 F] where
  | emit (now : ClockReading) (event : Event F)
  | subscribe
  | backlog
  | drain
  | tryRecv
  | reread

def subscribe (s : Drain F) : Option (Drain F) :=
  match s.pc with
  | .starting =>
      some { s with receiver := s.handle.subscribe, pc := .subscribed }
  | _ => none

/-- Folds the backlog, which is taken after subscribing. -/
def backlog (s : Drain F) : Option (Drain F) :=
  match s.pc with
  | .subscribed =>
      some { s with
        view := View.observer.foldAll s.view
          ((s.handle.eventsSince none).getD [])
        pc := .returned none }
  | _ => none

def drain (s : Drain F) : Option (Drain F) :=
  match s.pc with
  | .returned _ => some { s with pc := .receiving }
  | _ => none

/-- One attempt to receive. -/
def tryRecv (s : Drain F) : Option (Drain F) :=
  match s.pc with
  | .receiving =>
      match s.handle.tx.tryRecv s.receiver with
      | (.item envelope, after) =>
          some { s with receiver := after, view := s.view.fold envelope }
      | (.lagged _, after) =>
          some { s with receiver := after, pc := .rereading }
      | (.empty, _) => some { s with pc := .returned (some .opened) }
      | (.closed, _) => some { s with pc := .returned (some .closed) }
  | _ => none

/-- Reads the replay buffer after the receiver has lagged. -/
def reread (s : Drain F) : Option (Drain F) :=
  match s.pc with
  | .rereading =>
      some { s with
        view := View.observer.catchUp s.handle s.view
        pc := .receiving }
  | _ => none

/-! ## What the view can rely on -/

/-- Every event up to the last one seen has been folded once and in order. -/
def Complete (s : Drain F) (profile : Profile) : Prop :=
  View.observer.Follows (View.new profile) s.handle.emitted s.view

/-- The backlog is taken before the replay buffer has dropped anything.  When
the buffer is read again, the event that the view waits for is still in it, or
the receiver was not moved beyond that event. -/
def ReadsInTime (s : Drain F) : Action F → Prop
  | .backlog => s.handle.firstBuffered = 0
  | .reread =>
      s.handle.firstBuffered ≤ View.observer.next s.view ∨
        s.receiver ≤ View.observer.next s.view
  | _ => True

/-- The invariant of the system. -/
structure Invariant (profile : Profile) (s : Drain F) : Prop where
  sound : s.handle.Sound
  complete : s.Complete profile
  receiver_le : s.receiver ≤ s.handle.emitted.length
  /-- The receiver is never ahead of the view, unless it has just lagged. -/
  receiver_le_next : s.pc = .receiving ∨ (∃ stream, s.pc = .returned stream) →
    s.receiver ≤ View.observer.next s.view
  /-- Before the backlog the view is empty. -/
  view_eq : s.pc = .starting ∨ s.pc = .subscribed → s.view = View.new profile
  lagged : s.pc = .rereading → 0 < s.receiver

namespace Invariant

variable {profile : Profile} {s t : Drain F}

theorem subscribe (h : s.Invariant profile) (hstep : s.subscribe = some t) :
    t.Invariant profile := by
  obtain ⟨handle, receiver, view, pc⟩ := s
  cases pc with
  | starting =>
      obtain rfl := Option.some.inj hstep
      exact
        { sound := h.sound
          complete := h.complete
          receiver_le := le_rfl
          receiver_le_next := by simp
          view_eq := fun _ => h.view_eq (.inl rfl)
          lagged := by simp }
  | _ => exact absurd hstep (by simp [Drain.subscribe])

theorem backlog (h : s.Invariant profile) (htime : s.handle.firstBuffered = 0)
    (hstep : s.backlog = some t) :
    t.Invariant profile := by
  obtain ⟨handle, receiver, view, pc⟩ := s
  cases pc with
  | subscribed =>
      obtain rfl := Option.some.inj hstep
      have hview : view = View.new profile := h.view_eq (.inr rfl)
      subst hview
      have hfollows := Observer.Follows.catchUp h.complete h.sound
        (htime.le.trans (Nat.zero_le _))
      exact
        { sound := h.sound
          complete := hfollows.1
          receiver_le := h.receiver_le
          receiver_le_next := fun _ => h.receiver_le.trans hfollows.2.ge
          view_eq := by simp
          lagged := by simp }
  | _ => exact absurd hstep (by simp [Drain.backlog])

theorem drain (h : s.Invariant profile) (hstep : s.drain = some t) :
    t.Invariant profile := by
  obtain ⟨handle, receiver, view, pc⟩ := s
  cases pc with
  | returned stream =>
      obtain rfl := Option.some.inj hstep
      exact
        { sound := h.sound
          complete := h.complete
          receiver_le := h.receiver_le
          receiver_le_next := fun _ => h.receiver_le_next (.inr ⟨stream, rfl⟩)
          view_eq := by simp
          lagged := by simp }
  | _ => exact absurd hstep (by simp [Drain.drain])

/-- A drain may return whenever it has just received. -/
theorem finish (h : s.Invariant profile) (hpc : s.pc = .receiving)
    (stream : Stream) :
    ({ s with pc := .returned (some stream) } : Drain F).Invariant profile where
  sound := h.sound
  complete := h.complete
  receiver_le := h.receiver_le
  receiver_le_next _ := h.receiver_le_next (.inl hpc)
  view_eq := by simp
  lagged := by simp

theorem tryRecv (h : s.Invariant profile) (hstep : s.tryRecv = some t) :
    t.Invariant profile := by
  obtain ⟨handle, receiver, view, pc⟩ := s
  cases pc with
  | receiving =>
      have hle : receiver ≤ View.observer.next view :=
        h.receiver_le_next (.inl rfl)
      have hsound : handle.Sound := h.sound
      cases hrecv : handle.tx.tryRecv receiver with
      | mk reception after =>
          simp only [Drain.tryRecv, hrecv] at hstep
          cases reception with
          | item envelope =>
              obtain ⟨-, hget, rfl⟩ := Broadcast.item_of_tryRecv hrecv
              obtain rfl := Option.some.inj hstep
              have hnext : receiver + 1 ≤
                  View.observer.next (view.fold envelope) := by
                rw [View.fold, Observer.next_fold,
                  hsound.numbered.seq_of_getElem? hget]
                exact Nat.le_max_right _ _
              exact
                { sound := hsound
                  complete := Observer.Follows.item h.complete hsound hget hle
                  receiver_le := (List.getElem?_eq_some_iff.mp hget).1
                  receiver_le_next := fun _ => hnext
                  view_eq := by simp
                  lagged := by simp }
          | lagged missed =>
              obtain ⟨hlt, rfl⟩ := Broadcast.lagged_of_tryRecv hrecv
              obtain rfl := Option.some.inj hstep
              exact
                { sound := hsound
                  complete := h.complete
                  receiver_le := handle.tx.oldest_le_length
                  receiver_le_next := by simp
                  view_eq := by simp
                  lagged := fun _ => Nat.zero_lt_of_lt hlt }
          | empty =>
              obtain rfl := Option.some.inj hstep
              exact h.finish rfl _
          | closed =>
              obtain rfl := Option.some.inj hstep
              exact h.finish rfl _
  | _ => exact absurd hstep (by simp [Drain.tryRecv])

theorem reread (h : s.Invariant profile) (htime : s.ReadsInTime .reread)
    (hstep : s.reread = some t) :
    t.Invariant profile := by
  obtain ⟨handle, receiver, view, pc⟩ := s
  cases pc with
  | rereading =>
      obtain rfl := Option.some.inj hstep
      have hsound : handle.Sound := h.sound
      have hcomplete :
          View.observer.Follows (View.new profile) handle.emitted view :=
        h.complete
      by_cases hbuffered : handle.firstBuffered ≤ View.observer.next view
      · have hfollows := Observer.Follows.catchUp hcomplete hsound hbuffered
        exact
          { sound := hsound
            complete := hfollows.1
            receiver_le := h.receiver_le
            receiver_le_next := fun _ => h.receiver_le.trans hfollows.2.ge
            view_eq := by simp
            lagged := by simp }
      · -- The replay is refused, and the channel has nothing to make up for.
        have hle : receiver ≤ View.observer.next view :=
          htime.resolve_left hbuffered
        have hpos : 0 < View.observer.next view := (h.lagged rfl).trans_le hle
        have hsame : View.observer.catchUp handle view = view :=
          Observer.catchUp_of_evicted hsound hpos (Nat.not_le.mp hbuffered)
        exact
          { sound := hsound
            complete := hsame.symm ▸ hcomplete
            receiver_le := h.receiver_le
            receiver_le_next := fun _ => hsame.symm ▸ hle
            view_eq := by simp
            lagged := by simp }
  | _ => exact absurd hstep (by simp [Drain.reread])

end Invariant

/-! ## Runs -/

section Runs

variable [Chrono] [JsonText F]

def step (s : Drain F) : Action F → Option (Drain F)
  | .emit now event =>
      if s.handle.canEmit then
        some { s with handle := s.handle.emit now event }
      else
        none
  | .subscribe => s.subscribe
  | .backlog => s.backlog
  | .drain => s.drain
  | .tryRecv => s.tryRecv
  | .reread => s.reread

/-- The dashboard of a run that has emitted some events. -/
def Initial (profile : Profile) (s : Drain F) : Prop :=
  ∃ (id : RunId) (replayBuffer channel : ℕ)
    (emissions : List (ClockReading × Event F)),
    emissions.length ≤ 2 ^ 64 ∧
      s =
        { handle := (RunHandle.new id replayBuffer channel).emitAll emissions
          receiver := 0
          view := View.new profile
          pc := .starting }

/-- A run and its dashboard, interleaved in any order. -/
def system (profile : Profile) : TransitionSystem (Drain F) (Action F) where
  initial := Initial profile
  step := step

def emitting (profile : Profile) : Emitting (system (F := F) profile) F where
  handle := Drain.handle
  withHandle s handle := { s with handle := handle }
  emit := .emit
  handle_withHandle _ _ := rfl
  withHandle_withHandle _ _ _ := rfl
  withHandle_handle _ := rfl
  step_emit _ _ _ hcan _ := if_pos hcan

namespace Invariant

variable {profile : Profile} {s t : Drain F}

theorem emit (h : s.Invariant profile) (hcan : s.handle.canEmit = true)
    (now : ClockReading) (event : Event F) :
    ({ s with handle := s.handle.emit now event } :
      Drain F).Invariant profile where
  sound := h.sound.emit hcan now event
  complete := h.complete.append _
  receiver_le := by
    rw [RunHandle.emitted_emit, List.length_append]
    exact h.receiver_le.trans (Nat.le_add_right _ _)
  receiver_le_next := h.receiver_le_next
  view_eq := h.view_eq
  lagged := h.lagged

theorem initial (h : Initial profile s) : s.Invariant profile := by
  obtain ⟨id, replayBuffer, channel, emissions, hcount, rfl⟩ := h
  exact
    { sound := RunHandle.Sound.emitAll_new id replayBuffer channel hcount
      complete := SequencedFold.follows_initial rfl _
      receiver_le := Nat.zero_le _
      receiver_le_next := fun _ => Nat.zero_le _
      view_eq := fun _ => rfl
      lagged := by simp }

/-- One step of the run or of the dashboard. -/
theorem step (h : s.Invariant profile) {action : Action F}
    (htime : s.ReadsInTime action) (hstep : s.step action = some t) :
    t.Invariant profile := by
  cases action with
  | emit now event =>
      rw [Drain.step, Option.ite_none_right_eq_some, Option.some_inj] at hstep
      obtain ⟨hcan, rfl⟩ := hstep
      exact h.emit hcan now event
  | subscribe => exact h.subscribe hstep
  | backlog => exact h.backlog htime hstep
  | drain => exact h.drain hstep
  | tryRecv => exact h.tryRecv hstep
  | reread => exact h.reread htime hstep

end Invariant

/-- A drain that nothing disturbs folds everything that is still in the
channel and returns. -/
theorem runFrom_tryRecv (profile : Profile) {s : Drain F}
    (hpc : s.pc = .receiving) (hopen : s.handle.tx.closed = false)
    (holdest : s.handle.tx.oldest ≤ s.receiver)
    {count : ℕ} (hcount : s.receiver + count = s.handle.emitted.length) :
    (system profile).runFrom s (List.replicate (count + 1) .tryRecv) =
      some { s with
        receiver := s.handle.emitted.length
        view := View.observer.foldAll s.view
          (s.handle.emitted.drop s.receiver)
        pc := .returned (some .opened) } := by
  obtain ⟨handle, receiver, view, pc⟩ := s
  obtain rfl := hpc
  simp only at hopen holdest hcount ⊢
  induction count generalizing receiver view with
  | zero =>
      have hend : handle.emitted.length = receiver := hcount.symm
      have hrecv : handle.tx.tryRecv receiver = (.empty, receiver) :=
        Broadcast.tryRecv_of_length_le hend.le hopen
      rw [hend, List.drop_eq_nil_of_le hend.le, List.replicate_one,
        TransitionSystem.runFrom]
      simp only [system, step, tryRecv, hrecv, Option.bind_some,
        TransitionSystem.runFrom]
      rfl
  | succ count ih =>
      have hlt : receiver < handle.emitted.length := by omega
      have hget := List.getElem?_eq_getElem hlt
      have hrecv := Broadcast.tryRecv_of_getElem? holdest hget
      have hrest := ih (receiver + 1) (view.fold handle.emitted[receiver])
        (holdest.trans (Nat.le_succ _)) (by omega)
      rw [List.replicate_succ, TransitionSystem.runFrom]
      simp only [system, step, tryRecv, hrecv, Option.bind_some]
      rw [List.drop_eq_getElem_cons hlt]
      exact hrest

/-- A receiver that has fallen behind makes the dashboard read the replay
buffer. -/
theorem runFrom_lagged (profile : Profile) {s : Drain F}
    {stream : Option Stream} (hpc : s.pc = .returned stream)
    (hlate : s.receiver < s.handle.tx.oldest) :
    (system profile).runFrom s [.drain, .tryRecv, .reread] =
      some { s with
        receiver := s.handle.tx.oldest
        view := View.observer.catchUp s.handle s.view
        pc := .receiving } := by
  obtain ⟨handle, receiver, view, pc⟩ := s
  obtain rfl := hpc
  have hrecv := Broadcast.tryRecv_of_lt_oldest hlate
  simp only at hrecv
  simp only [TransitionSystem.runFrom, system, step, drain, tryRecv, reread,
    hrecv, Option.bind_some]

end Runs

/-! ## A dashboard that draws in time -/

open scoped StandIns

open RunHandle (quietRun quietHeartbeat quietCreated replayBufferSize)

/-- A dashboard that starts with its run. -/
def freshDashboard (capacity : ℕ) : Drain Float where
  handle := RunHandle.new quietRun capacity capacity
  receiver := 0
  view := View.new .quick
  pc := .starting

theorem initial_freshDashboard (capacity : ℕ) :
    (system .quick).initial (freshDashboard capacity) :=
  ⟨quietRun, capacity, capacity, [], by decide, rfl⟩

/-- The dashboard has folded the first event of its run. -/
def promptDashboard : Drain Float where
  handle := (RunHandle.new quietRun 1 1).emit ⟨0, 0⟩ quietCreated.2
  receiver := 1
  view := (View.new .quick).fold
    ((RunHandle.new quietRun 1 1).envelope ⟨0, 0⟩ quietCreated.2)
  pc := .returned (some .opened)

/-- The run announces itself, and then more events than the channel holds. -/
@[irreducible] def crowdedRun : List (ClockReading × Event Float) :=
  quietCreated :: List.replicate replayBufferSize quietHeartbeat

/-- The run goes on for too long between two frames. -/
def lateDrain : List (Action Float) :=
  [.subscribe, .backlog] ++ (emitting .quick).actions crowdedRun ++
    [.drain, .tryRecv, .reread] ++
      List.replicate (replayBufferSize + 1) .tryRecv

/-- The handle of that run. -/
def crowdedHandle : RunHandle Float :=
  (RunHandle.new quietRun replayBufferSize replayBufferSize).emitAll crowdedRun

theorem length_crowdedRun : crowdedRun.length = replayBufferSize + 1 := by
  rw [crowdedRun, List.length_cons, List.length_replicate]

theorem emitted_crowdedHandle :
    crowdedHandle.emitted = RunHandle.stream quietRun crowdedRun :=
  RunHandle.emitted_emitAll_new _ _ _ _

theorem length_crowdedHandle :
    crowdedHandle.emitted.length = replayBufferSize + 1 := by
  rw [emitted_crowdedHandle, RunHandle.length_stream, length_crowdedRun]

theorem sound_crowdedHandle : crowdedHandle.Sound := by
  refine RunHandle.Sound.emitAll_new _ _ _ ?_
  rw [length_crowdedRun]
  decide

theorem oldest_crowdedHandle : crowdedHandle.tx.oldest = 1 := by
  have hcapacity : crowdedHandle.tx.capacity = replayBufferSize := by
    rw [crowdedHandle, RunHandle.capacity_emitAll]
    rfl
  have hlength := length_crowdedHandle
  rw [RunHandle.emitted] at hlength
  rw [Broadcast.oldest, hlength, hcapacity]
  omega

/-- The first event of the run apart, it is all heartbeats. -/
theorem emitted_crowdedHandle_eq :
    ∃ first, first.event = quietCreated.2 ∧
      crowdedHandle.emitted = first :: crowdedHandle.emitted.drop 1 ∧
      ∀ e ∈ crowdedHandle.emitted.drop 1, e.event = quietHeartbeat.2 := by
  have hevents : crowdedHandle.emitted.map Envelope.event =
      quietCreated.2 :: List.replicate replayBufferSize quietHeartbeat.2 := by
    rw [emitted_crowdedHandle, RunHandle.map_event_stream, crowdedRun,
      List.map_cons, List.map_replicate]
  generalize crowdedHandle.emitted = emitted at hevents ⊢
  cases emitted with
  | nil => exact absurd hevents (by simp)
  | cons first rest =>
      rw [List.map_cons] at hevents
      obtain ⟨hfirst, hrest⟩ := List.cons.inj hevents
      refine ⟨first, hfirst, rfl, fun e he => ?_⟩
      have hmem : e.event ∈ rest.map Envelope.event := List.mem_map_of_mem he
      rw [hrest] at hmem
      exact List.eq_of_mem_replicate hmem

/-- What the view has become when the drain returns. -/
def overtakenView : View Float :=
  View.observer.foldAll
    (View.observer.catchUp crowdedHandle (View.new .quick))
    (crowdedHandle.emitted.drop 1)

theorem runFrom_crowdedRun :
    (system .quick).runFrom
        { freshDashboard replayBufferSize with pc := .returned none }
        ((emitting .quick).actions crowdedRun) =
      some
        { freshDashboard replayBufferSize with
          pc := .returned none
          handle := crowdedHandle } := by
  refine (emitting .quick).runFrom_actions rfl ?_ ?_
  · rw [length_crowdedRun]
    decide
  · intro emission hmem
    rw [crowdedRun] at hmem
    rcases List.mem_cons.mp hmem with rfl | hmem
    · rfl
    · rw [List.eq_of_mem_replicate hmem]
      rfl

theorem runFrom_lag :
    (system .quick).runFrom
        { freshDashboard replayBufferSize with
          pc := .returned none
          handle := crowdedHandle }
        [.drain, .tryRecv, .reread] =
      some
        { handle := crowdedHandle
          receiver := 1
          view := View.observer.catchUp crowdedHandle (View.new .quick)
          pc := .receiving } := by
  rw [runFrom_lagged .quick rfl (by rw [oldest_crowdedHandle]; decide)]
  rw [oldest_crowdedHandle]
  rfl

theorem runFrom_rest :
    (system .quick).runFrom
        { handle := crowdedHandle
          receiver := 1
          view := View.observer.catchUp crowdedHandle (View.new .quick)
          pc := .receiving }
        (List.replicate (replayBufferSize + 1) .tryRecv) =
      some
        { handle := crowdedHandle
          receiver := crowdedHandle.emitted.length
          view := overtakenView
          pc := .returned (some .opened) } := by
  refine runFrom_tryRecv .quick rfl ?_ oldest_crowdedHandle.le ?_
  · rw [crowdedHandle, RunHandle.closed_emitAll]
    rfl
  · exact (Nat.add_comm _ _).trans length_crowdedHandle.symm

theorem runFrom_lateDrain :
    (system .quick).runFrom (freshDashboard replayBufferSize) lateDrain =
      some
        { handle := crowdedHandle
          receiver := crowdedHandle.emitted.length
          view := overtakenView
          pc := .returned (some .opened) } := by
  have hstart : (system .quick).runFrom (freshDashboard replayBufferSize)
      [.subscribe, .backlog] =
        some { freshDashboard replayBufferSize with pc := .returned none } :=
    rfl
  rw [lateDrain, TransitionSystem.runFrom_append,
    TransitionSystem.runFrom_append, TransitionSystem.runFrom_append, hstart,
    Option.bind_some, runFrom_crowdedRun, Option.bind_some, runFrom_lag,
    Option.bind_some, runFrom_rest]

/-- The replay buffer is read without a position, so it is not refused. -/
theorem overtakenView_eq :
    overtakenView = View.observer.foldAll (View.new .quick)
      (crowdedHandle.emitted.drop 1 ++ crowdedHandle.emitted.drop 1) := by
  have hfirst : crowdedHandle.firstBuffered = 1 := by
    have hbuffer : crowdedHandle.replayBuffer = replayBufferSize := by
      rw [crowdedHandle, RunHandle.replayBuffer_emitAll]
      rfl
    rw [RunHandle.firstBuffered, length_crowdedHandle, hbuffer]
    decide
  rw [overtakenView, Observer.catchUp_of_none rfl, Observer.foldAll_append,
    sound_crowdedHandle.events_eq, hfirst]

theorem state_overtakenView : overtakenView.state = .created := by
  obtain ⟨-, -, -, hrest⟩ := emitted_crowdedHandle_eq
  rw [overtakenView_eq]
  exact (View.state_foldl_of_heartbeat (View.new .quick) fun e he =>
    hrest e ((List.mem_append.mp he).elim id id)).1

theorem next_overtakenView_pos : 0 < View.observer.next overtakenView := by
  have hlength : (crowdedHandle.emitted.drop 1).length = replayBufferSize := by
    rw [List.length_drop, length_crowdedHandle]
    rfl
  rw [overtakenView_eq]
  generalize crowdedHandle.emitted.drop 1 = rest at hlength ⊢
  cases rest with
  | nil => exact absurd hlength (by decide)
  | cons e rest =>
      have hfold : 0 < View.observer.next (View.observer.fold (View.new .quick)
          e) := by
        rw [Observer.next_fold]
        omega
      exact hfold.trans_le (Observer.le_next_foldAll _ _)

/-- Every fold that starts with the first event has left the initial state. -/
theorem state_take_crowdedHandle {count : ℕ} (hcount : 0 < count) :
    ((crowdedHandle.emitted.take count).foldl View.apply
      (View.new .quick)).state = .preflight := by
  obtain ⟨first, hfirst, hcons, hrest⟩ := emitted_crowdedHandle_eq
  obtain ⟨count, rfl⟩ := Nat.exists_eq_succ_of_ne_zero hcount.ne'
  rw [hcons, List.take_succ_cons, List.foldl_cons]
  refine (View.state_foldl_of_heartbeat _ fun e he =>
    hrest e (List.mem_of_mem_take he)).2.trans ?_
  rw [View.apply, hfirst]
  rfl

end Drain

end Darcbench
