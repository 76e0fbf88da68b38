import Darcbench.Agent.Emitting
import Darcbench.Agent.Ending
import Darcbench.Agent.Progress
import Darcbench.Agent.Replayed

/-!
# Following a run on plain lines

The follower waits for one event after the other.  It stops when it receives
the terminal event, and also when it finds, behind any other event, that the
run has published a terminal state.
-/

namespace Darcbench

variable {F : Type} [F64 F]

/-- Where the follower is in its code. -/
inductive Follow.Pc where
  | starting
  | subscribed
  | receiving
  | rereading
  | checking
  | returned
  deriving DecidableEq

/-- The plain follower and the run it follows. -/
structure Follow (F : Type) [F64 F] where
  handle : RunHandle F
  receiver : ℕ
  progress : Progress
  pc : Follow.Pc

namespace Follow

inductive Action (F : Type) [F64 F] where
  | run (runStep : RunHandle.RunStep F)
  | subscribe
  | backlog
  | recv
  | reread
  | check

/-! ## The follower -/

def subscribe (s : Follow F) : Option (Follow F) :=
  match s.pc with
  | .starting =>
      some { s with receiver := s.handle.subscribe, pc := .subscribed }
  | _ => none

/-- Folds the backlog, which is taken after subscribing. -/
def backlog (style : Style) (s : Follow F) : Option (Follow F) :=
  match s.pc with
  | .subscribed =>
      some { s with
        progress := (Progress.observer style).foldAll s.progress
          ((s.handle.eventsSince none).getD [])
        pc := .receiving }
  | _ => none

/-- Waits for the next event.  There is no step while there is none. -/
def recv (style : Style) (s : Follow F) : Option (Follow F) :=
  match s.pc with
  | .receiving =>
      match s.handle.tx.tryRecv s.receiver with
      | (.item envelope, after) =>
          some { s with
            receiver := after
            progress := (Progress.observer style).fold s.progress envelope
            pc := if envelope.event.isStreamTerminal then .returned
              else .checking }
      | (.lagged _, after) =>
          some { s with receiver := after, pc := .rereading }
      | (.empty, _) => none
      | (.closed, _) => some { s with pc := .returned }
  | _ => none

/-- Reads the replay buffer after the receiver has lagged. -/
def reread (style : Style) (s : Follow F) : Option (Follow F) :=
  match s.pc with
  | .rereading =>
      some { s with
        progress := (Progress.observer style).catchUp s.handle s.progress
        pc := .checking }
  | _ => none

/-- Stops when the run has published a terminal state. -/
def check (s : Follow F) : Option (Follow F) :=
  match s.pc with
  | .checking =>
      some { s with
        pc := if s.handle.state.isTerminal then .returned else .receiving }
  | _ => none

/-- A follower beside a run that has not begun. -/
def start (id : RunId) (replayBuffer channel : ℕ) : Follow F where
  handle := RunHandle.new id replayBuffer channel
  receiver := 0
  progress := Progress.default
  pc := .starting

/-! ## What the reader of the lines can rely on -/

/-- Every event up to the last one seen has been folded once and in order. -/
def Complete (style : Style) (s : Follow F) : Prop :=
  (Progress.observer style).Follows Progress.default s.handle.emitted
    s.progress

/-- The number that the follower waits for. -/
def next (s : Follow F) : ℕ :=
  s.progress.lastSeq.elim 0 (· + 1)

/-- The terminal event has been folded. -/
def SeenEnd (s : Follow F) : Prop :=
  ∃ e ∈ s.handle.emitted, e.event.isStreamTerminal = true ∧ e.seq < s.next

/-- The terminal event, once emitted, is still to be received. -/
def EndAhead (s : Follow F) : Prop :=
  ∀ e ∈ s.handle.emitted, e.event.isStreamTerminal = true →
    s.receiver ≤ e.seq

/-- The run is over and everything was received, but the follower waits. -/
def Stuck (style : Style) (s : Follow F) : Prop :=
  s.handle.state.isTerminal = true ∧ s.pc = .receiving ∧
    s.recv style = none

/-- The backlog is taken before the replay buffer has dropped anything.  The
follower starts to wait only while the terminal event is ahead of it, finds a
terminal state only behind the terminal event, and reads the replay buffer
again only while the event it waits for is there. -/
def InTime (s : Follow F) : Action F → Prop
  | .backlog => s.handle.firstBuffered = 0 ∧ s.EndAhead
  | .reread => s.handle.firstBuffered ≤ s.next ∨ s.receiver ≤ s.next
  | .check =>
      if s.handle.state.isTerminal = true then s.SeenEnd else s.EndAhead
  | _ => True

/-- The invariant of the system. -/
structure Invariant (style : Style) (s : Follow F) : Prop where
  ends : s.handle.Ends
  opened : s.handle.tx.closed = false
  complete : s.Complete style
  receiver_le : s.receiver ≤ s.handle.emitted.length
  receiver_le_next : s.pc = .receiving ∨ s.pc = .checking →
    s.receiver ≤ s.next
  endAhead : s.pc = .receiving → s.EndAhead
  /-- Before the backlog nothing has been folded. -/
  progress_eq : s.pc = .starting ∨ s.pc = .subscribed →
    s.progress = Progress.default
  lagged : s.pc = .rereading → 0 < s.receiver
  seenEnd : s.pc = .returned → s.SeenEnd

namespace Invariant

variable {style : Style} {s t : Follow F}

theorem start (id : RunId) (replayBuffer channel : ℕ) :
    (Follow.start (F := F) id replayBuffer channel).Invariant style where
  ends := RunHandle.Ends.new id replayBuffer channel
  opened := rfl
  complete := SequencedFold.follows_initial rfl _
  receiver_le := Nat.zero_le _
  receiver_le_next _ := Nat.zero_le _
  endAhead _ _ he := nomatch he
  progress_eq _ := rfl
  lagged := by simp [Follow.start]
  seenEnd := by simp [Follow.start]

theorem subscribe (h : s.Invariant style) (hstep : s.subscribe = some t) :
    t.Invariant style := by
  obtain ⟨handle, receiver, progress, pc⟩ := s
  cases pc with
  | starting =>
      obtain rfl := Option.some.inj hstep
      exact
        { ends := h.ends
          opened := h.opened
          complete := h.complete
          receiver_le := le_rfl
          receiver_le_next := by simp
          endAhead := by simp
          progress_eq := fun _ => h.progress_eq (.inl rfl)
          lagged := by simp
          seenEnd := by simp }
  | _ => exact absurd hstep (by simp [Follow.subscribe])

theorem backlog (h : s.Invariant style) (htime : s.InTime .backlog)
    (hstep : s.backlog style = some t) :
    t.Invariant style := by
  obtain ⟨handle, receiver, progress, pc⟩ := s
  cases pc with
  | subscribed =>
      obtain rfl := Option.some.inj hstep
      have hprogress : progress = Progress.default := h.progress_eq (.inr rfl)
      subst hprogress
      have hfollows := Observer.Follows.catchUp h.complete h.ends.toSound
        (htime.1.le.trans (Nat.zero_le _))
      exact
        { ends := h.ends
          opened := h.opened
          complete := hfollows.1
          receiver_le := h.receiver_le
          receiver_le_next := fun _ => h.receiver_le.trans hfollows.2.ge
          endAhead := fun _ => htime.2
          progress_eq := by simp
          lagged := by simp
          seenEnd := by simp }
  | _ => exact absurd hstep (by simp [Follow.backlog])

/-- An event that the channel delivers. -/
theorem item (h : s.Invariant style) (hpc : s.pc = .receiving)
    {envelope : Envelope F}
    (hget : s.handle.emitted[s.receiver]? = some envelope) :
    ({ s with
        receiver := s.receiver + 1
        progress := (Progress.observer style).fold s.progress envelope
        pc := if envelope.event.isStreamTerminal then .returned
          else .checking } : Follow F).Invariant style := by
  have hseq := h.ends.numbered.seq_of_getElem? hget
  have hnext : s.receiver + 1 ≤ (Progress.observer (F := F) style).next
      ((Progress.observer style).fold s.progress envelope) := by
    rw [Observer.next_fold, hseq]
    exact Nat.le_max_right _ _
  have hcomplete := Observer.Follows.item h.complete h.ends.toSound hget
    (h.receiver_le_next (.inl hpc))
  have hbound := (List.getElem?_eq_some_iff.mp hget).1
  by_cases hterminal : envelope.event.isStreamTerminal = true
  · rw [if_pos hterminal]
    exact
      { ends := h.ends
        opened := h.opened
        complete := hcomplete
        receiver_le := hbound
        receiver_le_next := by simp
        endAhead := by simp
        progress_eq := by simp
        lagged := by simp
        seenEnd := fun _ => ⟨envelope, List.mem_of_getElem? hget, hterminal,
          hseq ▸ hnext⟩ }
  · rw [if_neg hterminal]
    exact
      { ends := h.ends
        opened := h.opened
        complete := hcomplete
        receiver_le := hbound
        receiver_le_next := fun _ => hnext
        endAhead := by simp
        progress_eq := by simp
        lagged := by simp
        seenEnd := by simp }

theorem recv (h : s.Invariant style) (hstep : s.recv style = some t) :
    t.Invariant style := by
  obtain ⟨handle, receiver, progress, pc⟩ := s
  cases pc with
  | receiving =>
      cases hrecv : handle.tx.tryRecv receiver with
      | mk reception after =>
          simp only [Follow.recv, hrecv] at hstep
          cases reception with
          | item envelope =>
              obtain ⟨-, hget, rfl⟩ := Broadcast.item_of_tryRecv hrecv
              obtain rfl := Option.some.inj hstep
              exact h.item rfl hget
          | lagged missed =>
              obtain ⟨hlt, rfl⟩ := Broadcast.lagged_of_tryRecv hrecv
              obtain rfl := Option.some.inj hstep
              exact
                { ends := h.ends
                  opened := h.opened
                  complete := h.complete
                  receiver_le := handle.tx.oldest_le_length
                  receiver_le_next := by simp
                  endAhead := by simp
                  progress_eq := by simp
                  lagged := fun _ => Nat.zero_lt_of_lt hlt
                  seenEnd := by simp }
          | empty => exact absurd hstep (by simp)
          | closed =>
              have hclosed := (Broadcast.closed_of_tryRecv hrecv).1
              exact absurd (h.opened.symm.trans hclosed) (by simp)
  | _ => exact absurd hstep (by simp [Follow.recv])

theorem reread (h : s.Invariant style) (htime : s.InTime .reread)
    (hstep : s.reread style = some t) :
    t.Invariant style := by
  obtain ⟨handle, receiver, progress, pc⟩ := s
  cases pc with
  | rereading =>
      obtain rfl := Option.some.inj hstep
      have hsound : handle.Sound := h.ends.toSound
      have hcomplete : (Progress.observer style).Follows Progress.default
          handle.emitted progress :=
        h.complete
      by_cases hbuffered :
          handle.firstBuffered ≤ (Progress.observer (F := F) style).next progress
      · have hfollows := Observer.Follows.catchUp hcomplete hsound hbuffered
        exact
          { ends := h.ends
            opened := h.opened
            complete := hfollows.1
            receiver_le := h.receiver_le
            receiver_le_next := fun _ => h.receiver_le.trans hfollows.2.ge
            endAhead := by simp
            progress_eq := by simp
            lagged := by simp
            seenEnd := by simp }
      · -- The replay is refused, and the channel has nothing to make up for.
        have hle : receiver ≤ (Progress.observer (F := F) style).next progress :=
          htime.resolve_left hbuffered
        have hpos : 0 < (Progress.observer (F := F) style).next progress :=
          (h.lagged rfl).trans_le hle
        have hsame :
            (Progress.observer style).catchUp handle progress = progress :=
          Observer.catchUp_of_evicted hsound hpos (Nat.not_le.mp hbuffered)
        exact
          { ends := h.ends
            opened := h.opened
            complete := hsame.symm ▸ hcomplete
            receiver_le := h.receiver_le
            receiver_le_next := fun _ => hsame.symm ▸ hle
            endAhead := by simp
            progress_eq := by simp
            lagged := by simp
            seenEnd := by simp }
  | _ => exact absurd hstep (by simp [Follow.reread])

theorem check (h : s.Invariant style) (htime : s.InTime .check)
    (hstep : s.check = some t) :
    t.Invariant style := by
  obtain ⟨handle, receiver, progress, pc⟩ := s
  cases pc with
  | checking =>
      obtain rfl := Option.some.inj hstep
      rw [InTime] at htime
      by_cases hterminal : handle.state.isTerminal = true
      · rw [if_pos hterminal] at htime
        simp only [if_pos hterminal]
        exact
          { ends := h.ends
            opened := h.opened
            complete := h.complete
            receiver_le := h.receiver_le
            receiver_le_next := by simp
            endAhead := by simp
            progress_eq := by simp
            lagged := by simp
            seenEnd := fun _ => htime }
      · rw [if_neg hterminal] at htime
        simp only [if_neg hterminal]
        exact
          { ends := h.ends
            opened := h.opened
            complete := h.complete
            receiver_le := h.receiver_le
            receiver_le_next := fun _ => h.receiver_le_next (.inr rfl)
            endAhead := fun _ => htime
            progress_eq := by simp
            lagged := by simp
            seenEnd := by simp }
  | _ => exact absurd hstep (by simp [Follow.check])

theorem run (h : s.Invariant style) {handle : RunHandle F}
    (hadvance : s.handle.Advances handle) :
    ({ s with handle := handle } : Follow F).Invariant style := by
  obtain ⟨more, hmore⟩ := hadvance.emitted_eq
  have hgrow : s.handle.emitted.length ≤ handle.emitted.length := by
    rw [hmore, List.length_append]
    exact Nat.le_add_right _ _
  exact
    { ends := hadvance.ends
      opened := hadvance.closed_eq.trans h.opened
      complete := by
        rw [Complete, hmore]
        exact h.complete.append more
      receiver_le := h.receiver_le.trans hgrow
      receiver_le_next := h.receiver_le_next
      endAhead := fun hpc e he hend =>
        (hadvance.seq_ge e he).elim (fun hold => h.endAhead hpc e hold hend)
          h.receiver_le.trans
      progress_eq := h.progress_eq
      lagged := h.lagged
      seenEnd := fun hpc =>
        have ⟨e, he, hend⟩ := h.seenEnd hpc
        ⟨e, hmore ▸ List.mem_append_left more he, hend⟩ }

/-- A follower that waits while the run is over has something to receive. -/
theorem not_stuck (h : s.Invariant style) : ¬ s.Stuck style := by
  obtain ⟨handle, receiver, progress, pc⟩ := s
  rintro ⟨hterminal, rfl, hblocked⟩
  obtain ⟨e, he, hend⟩ :=
    RunHandle.hasEnded_iff.mp (h.ends.published hterminal)
  have hle : receiver ≤ e.seq := h.endAhead rfl e he hend
  have hlt : e.seq < handle.tx.sent.length := h.ends.numbered.seq_lt_length he
  cases hrecv : handle.tx.tryRecv receiver with
  | mk reception after =>
      simp only [Follow.recv, hrecv] at hblocked
      cases reception with
      | empty =>
          have hempty := (Broadcast.empty_of_tryRecv hrecv).1
          omega
      | _ => exact absurd hblocked (by simp)

end Invariant

/-! ## Runs -/

section Runs

variable [Chrono] [JsonText F]

def step (style : Style) (s : Follow F) : Action F → Option (Follow F)
  | .run runStep =>
      (s.handle.advance runStep).map fun handle => { s with handle := handle }
  | .subscribe => s.subscribe
  | .backlog => s.backlog style
  | .recv => s.recv style
  | .reread => s.reread style
  | .check => s.check

/-- A run and its plain follower, interleaved in any order. -/
def system (style : Style) : TransitionSystem (Follow F) (Action F) where
  initial s := ∃ id replayBuffer channel, s = start id replayBuffer channel
  step := step style

namespace Invariant

variable {style : Style} {s t : Follow F}

/-- One step of the run or of the follower. -/
theorem step (h : s.Invariant style) {action : Action F}
    (htime : s.InTime action) (hstep : s.step style action = some t) :
    t.Invariant style := by
  cases action with
  | run runStep =>
      obtain ⟨handle, hadvance, rfl⟩ := Option.map_eq_some_iff.mp hstep
      exact h.run (h.ends.advance hadvance)
  | subscribe => exact h.subscribe hstep
  | backlog => exact h.backlog htime hstep
  | recv => exact h.recv hstep
  | reread => exact h.reread htime hstep
  | check => exact h.check htime hstep

end Invariant

def running (style : Style) :
    RunHandle.Running (system (F := F) style) F where
  handle s := s.handle
  withHandle s handle := { s with handle := handle }
  run := .run
  handle_withHandle _ _ := rfl
  withHandle_withHandle _ _ _ := rfl
  withHandle_handle _ := rfl
  step_run _ _ := rfl

end Runs

/-! ## A follower that reads in time -/

open scoped StandIns

open RunHandle (quietRun refusedRun refusedHandle replayBufferSize)

def quietInvalidated : Event Float :=
  .runInvalidated ⟨.invalid, [], ""⟩

def attentiveFollower : Follow Float :=
  start quietRun 1 1

/-- A follower that has just received the only event of its run. -/
def promptFollower : Follow Float where
  handle := (RunHandle.new quietRun 1 1).emit ⟨0, 0⟩ quietInvalidated
  receiver := 1
  progress := (Progress.observer (F := Float) ⟨false⟩).fold Progress.default
    ((RunHandle.new quietRun 1 1).envelope ⟨0, 0⟩ quietInvalidated)
  pc := .returned

def freshFollower : Follow Float :=
  start quietRun replayBufferSize replayBufferSize

/-- The follower receives the first event after the run is over. -/
def overtaken : List (Action Float) :=
  [.subscribe, .backlog] ++ refusedRun.map .run ++ [.recv, .check]

/-- The follower subscribes after the run is over. -/
def belated : List (Action Float) :=
  refusedRun.map .run ++ [.subscribe, .backlog]

/-- The only terminal event of the run is its last one. -/
theorem seq_of_terminal {e : Envelope Float} (he : e ∈ refusedHandle.emitted)
    (hend : e.event.isStreamTerminal = true) :
    e.seq = 5 := by
  have hall : (refusedHandle.emitted.all fun e =>
      !e.event.isStreamTerminal || decide (e.seq = 5)) = true :=
    rfl
  have hseq := List.all_eq_true.mp hall e he
  rw [hend] at hseq
  exact of_decide_eq_true hseq

/-- The follower returns after the first event of the run. -/
theorem runFrom_overtaken (style : Style) :
    ∃ s, (system style).runFrom freshFollower overtaken = some s ∧
      s.pc = .returned ∧ s.handle = refusedHandle ∧ s.next = 1 := by
  have hopen : (system style).runFrom freshFollower [.subscribe, .backlog] =
      some { freshFollower with pc := .receiving } :=
    rfl
  have hrun : (system style).runFrom { freshFollower with pc := .receiving }
      (refusedRun.map .run) =
        some { freshFollower with pc := .receiving, handle := refusedHandle } :=
    (running style).runFrom_run RunHandle.advanceAll_refusedRun
  let first := refusedHandle.emitted.head (List.cons_ne_nil _ _)
  have hget : refusedHandle.tx.sent[0]? = some first := rfl
  have hfirst : first.event.isStreamTerminal = false := rfl
  have hrecv := Broadcast.tryRecv_of_getElem?
    RunHandle.oldest_refusedHandle.le hget
  have hterminal : refusedHandle.state.isTerminal = true := rfl
  refine ⟨
    { handle := refusedHandle
      receiver := 1
      progress := (Progress.observer style).fold Progress.default first
      pc := .returned }, ?_, rfl, rfl, rfl⟩
  rw [overtaken, TransitionSystem.runFrom_append,
    TransitionSystem.runFrom_append, hopen, Option.bind_some, hrun,
    Option.bind_some]
  simp only [TransitionSystem.runFrom, system, step, recv, check,
    freshFollower, start, hrecv, hfirst, hterminal, Option.bind_some, if_true]
  rfl

/-- The follower has folded the whole run and waits for more. -/
theorem runFrom_belated (style : Style) :
    (system style).runFrom freshFollower belated =
      some
        { handle := refusedHandle
          receiver := 6
          progress := (Progress.observer style).foldAll Progress.default
            ((refusedHandle.eventsSince none).getD [])
          pc := .receiving } := by
  have hrun : (system style).runFrom freshFollower (refusedRun.map .run) =
      some { freshFollower with handle := refusedHandle } :=
    (running style).runFrom_run RunHandle.advanceAll_refusedRun
  rw [belated, TransitionSystem.runFrom_append, hrun, Option.bind_some]
  rfl

end Follow

end Darcbench
