import Darcbench.Agent.Emitting
import Darcbench.Agent.Replayed

/-!
# One connection to the event stream

A client that connects gets the events it lacks from the replay buffer, and
then what arrives on the live channel.  The connection subscribes before it
takes the snapshot, and live events that the snapshot already contained are
filtered out by their numbers.
-/

namespace Darcbench

variable {F : Type} [F64 F]

/-! ## The connection -/

/-- How far the answer to a request has come. -/
inductive EventStream.Phase (F : Type) [F64 F] where
  | opening
  | subscribed (next : ℕ)
  /-- The rest of the backlog is sent before the live channel is polled. -/
  | streaming (next : ℕ) (highestReplayed : Option ℕ)
      (backlog : List (Envelope F))
  | ended

/-- A request for the events of a run, together with the run. -/
structure EventStream (F : Type) [F64 F] where
  handle : RunHandle F
  /-- The last number that the client has seen, if it names one. -/
  lastSeen : Option ℕ
  phase : EventStream.Phase F
  /-- The backlog, as it was when the snapshot was taken. -/
  replayed : List (Envelope F)
  /-- What was sent to the client. -/
  forwarded : List (Envelope F)

namespace EventStream

inductive Action (F : Type) [F64 F] where
  | emit (now : ClockReading) (event : Event F)
  | close
  | subscribe
  | snapshot
  | forward
  | poll
  | disconnect

/-- Whether the live filter lets an event through. -/
def passes (highestReplayed : Option ℕ) (envelope : Envelope F) : Bool :=
  match highestReplayed with
  | some seq => !decide (envelope.seq ≤ seq)
  | none => true

/-- The first live number that the filter lets through. -/
def nextFresh (next : ℕ) (highestReplayed : Option ℕ) : ℕ :=
  max next (highestReplayed.elim 0 (· + 1))

def subscribe (conn : EventStream F) : Option (EventStream F) :=
  match conn.phase with
  | .opening =>
      some { conn with phase := .subscribed conn.handle.subscribe }
  | _ => none

/-- Takes the backlog.  A request for evicted events is refused. -/
def snapshot (conn : EventStream F) : Option (EventStream F) :=
  match conn.phase with
  | .subscribed next =>
      match conn.handle.eventsSince conn.lastSeen with
      | none => some { conn with phase := .ended }
      | some backlog =>
          let highestReplayed := backlog.getLast?.map Envelope.seq
          some { conn with
            phase := .streaming next highestReplayed backlog
            replayed := backlog }
  | _ => none

def forward (conn : EventStream F) : Option (EventStream F) :=
  match conn.phase with
  | .streaming next highestReplayed (envelope :: backlog) =>
      some { conn with
        phase := .streaming next highestReplayed backlog
        forwarded := conn.forwarded ++ [envelope] }
  | _ => none

/-- One item of the live channel.  An item that is mapped to nothing does not
end the stream; the next poll goes on behind it. -/
def poll (conn : EventStream F) : Option (EventStream F) :=
  match conn.phase with
  | .streaming next highestReplayed [] =>
      match conn.handle.tx.tryRecv next with
      | (.item envelope, after) =>
          some { conn with
            phase := .streaming after highestReplayed []
            forwarded := conn.forwarded ++
              if passes highestReplayed envelope then [envelope] else [] }
      | (.lagged _, after) =>
          some { conn with phase := .streaming after highestReplayed [] }
      | (.empty, _) => none
      | (.closed, _) => some { conn with phase := .ended }
  | _ => none

/-! ## What the client can rely on -/

/-- The number that a replay starts with. -/
def firstNumber : Option ℕ → List (Envelope F) → ℕ
  | some seen, _ => seen + 1
  | none, replayed => (replayed.head?.map Envelope.seq).getD 0

/-- The number of the first event that the client is sent. -/
def start (conn : EventStream F) : ℕ :=
  firstNumber conn.lastSeen conn.replayed

/-- The client gets the backlog first, and its numbers are consecutive. -/
structure Gapless (conn : EventStream F) : Prop where
  seq_eq : conn.forwarded.map Envelope.seq =
    List.range' conn.start conn.forwarded.length
  backlog_first : conn.forwarded <+: conn.replayed ∨
    conn.replayed <+: conn.forwarded

/-- The channel still retains the next event that the client lacks. -/
def PollsInTime (conn : EventStream F) : Prop :=
  match conn.phase with
  | .streaming next highestReplayed _ =>
      conn.handle.tx.oldest ≤ nextFresh next highestReplayed
  | _ => True

/-- What holds of a connection that never polls too late. -/
def Follows (conn : EventStream F) : Prop :=
  match conn.phase with
  | .opening => conn.replayed = [] ∧ conn.forwarded = []
  | .subscribed next =>
      conn.replayed = [] ∧ conn.forwarded = [] ∧
        next ≤ conn.handle.emitted.length ∧
        ∀ seen ∈ conn.lastSeen, seen < next
  | .streaming next highestReplayed backlog =>
      nextFresh next highestReplayed ≤ conn.handle.emitted.length ∧
        conn.start + (conn.forwarded ++ backlog).length =
          nextFresh next highestReplayed ∧
        conn.forwarded ++ backlog <+: conn.handle.emitted.drop conn.start ∧
        conn.replayed <+: conn.forwarded ++ backlog ∧
        (backlog ≠ [] → conn.forwarded ++ backlog = conn.replayed)
  | .ended => conn.Gapless

/-- The invariant of the system. -/
structure Invariant (conn : EventStream F) : Prop where
  sound : conn.handle.Sound
  seen_lt : ∀ seen ∈ conn.lastSeen, seen < conn.handle.emitted.length
  follows : conn.Follows

theorem gapless_of_forwarded_eq_nil {conn : EventStream F}
    (h : conn.forwarded = []) :
    conn.Gapless where
  seq_eq := by rw [h]; rfl
  backlog_first := .inl (h ▸ List.nil_prefix)

namespace Invariant

variable {conn : EventStream F}

theorem gapless (h : conn.Invariant) : conn.Gapless := by
  have hfollows := h.follows
  rw [Follows] at hfollows
  split at hfollows
  · obtain ⟨-, hforwarded⟩ := hfollows
    exact gapless_of_forwarded_eq_nil hforwarded
  · obtain ⟨-, hforwarded, -⟩ := hfollows
    exact gapless_of_forwarded_eq_nil hforwarded
  · next next highestReplayed backlog _ =>
      obtain ⟨-, -, hpre, hreplayed, hwhole⟩ := hfollows
      refine ⟨h.sound.numbered.map_of_prefix_drop
        ((List.prefix_append _ _).trans hpre), ?_⟩
      by_cases hnil : backlog = []
      · right
        rwa [hnil, List.append_nil] at hreplayed
      · left
        rw [← hwhole hnil]
        exact List.prefix_append _ _
  · exact hfollows

end Invariant

/-! ## Every step keeps the invariant -/

theorem passes_eq_decide (highestReplayed : Option ℕ)
    (envelope : Envelope F) :
    passes highestReplayed envelope =
      decide (nextFresh envelope.seq highestReplayed = envelope.seq) := by
  cases highestReplayed with
  | none => exact (decide_eq_true (Nat.max_zero _)).symm
  | some seq =>
      rw [passes, nextFresh, Option.elim_some, ← decide_not]
      exact decide_eq_decide.mpr (by omega)

theorem nextFresh_succ_of_eq {next : ℕ} {highestReplayed : Option ℕ}
    (h : nextFresh next highestReplayed = next) :
    nextFresh (next + 1) highestReplayed = next + 1 := by
  rw [nextFresh] at h ⊢
  omega

theorem nextFresh_succ_of_ne {next : ℕ} {highestReplayed : Option ℕ}
    (h : nextFresh next highestReplayed ≠ next) :
    nextFresh (next + 1) highestReplayed = nextFresh next highestReplayed := by
  rw [nextFresh] at h ⊢
  rw [nextFresh]
  omega

/-- What the snapshot returns is the rest of the run from its first number on,
and it reaches at least as far as the subscription. -/
theorem backlog_spec {handle : RunHandle F} (h : handle.Sound)
    {lastSeen : Option ℕ} {next : ℕ} {backlog : List (Envelope F)}
    (hnext : next ≤ handle.emitted.length)
    (hseen : ∀ seen ∈ lastSeen, seen < next)
    (hbacklog : handle.eventsSince lastSeen = some backlog) :
    backlog = handle.emitted.drop (firstNumber lastSeen backlog) ∧
      firstNumber lastSeen backlog ≤ handle.emitted.length ∧
      (firstNumber lastSeen backlog < handle.emitted.length ∨
        firstNumber lastSeen backlog ≤ next) := by
  cases lastSeen with
  | some seen =>
      have hlt : seen < next := hseen seen rfl
      rw [h.eventsSince_some h.count_le] at hbacklog
      split at hbacklog
      · exact absurd hbacklog (by simp)
      · refine ⟨(Option.some.inj hbacklog).symm, ?_, .inr hlt⟩
        exact hlt.trans_le hnext
  | none =>
      have hevents : handle.events = backlog := Option.some.inj hbacklog
      have hhead := h.head?_events
      rw [hevents] at hhead
      by_cases hempty : handle.emitted.length = 0
      · have hnil : handle.emitted = [] := List.length_eq_zero_iff.mp hempty
        have hzero : firstNumber none backlog = 0 := by
          rw [firstNumber, hhead, hnil]
          rfl
        rw [hzero, List.drop_zero, ← hevents, h.events_eq, hnil]
        exact ⟨List.drop_nil, Nat.zero_le _, .inr (Nat.zero_le _)⟩
      · have hlt : handle.firstBuffered < handle.emitted.length := by
          rw [RunHandle.firstBuffered]
          omega
        have hget := List.getElem?_eq_getElem hlt
        have hfirst : firstNumber none backlog = handle.firstBuffered := by
          rw [firstNumber, hhead, hget]
          exact h.numbered.seq_of_getElem? hget
        rw [hfirst, ← hevents]
        exact ⟨h.events_eq, hlt.le, .inl hlt⟩

/-- Behind a backlog the live filter waits for the next event of the run. -/
theorem nextFresh_of_backlog {handle : RunHandle F} (h : handle.Sound)
    {first next : ℕ} (hfirst : first ≤ handle.emitted.length)
    (hnext : next ≤ handle.emitted.length)
    (hreach : first < handle.emitted.length ∨ first ≤ next) :
    nextFresh next
        ((handle.emitted.drop first).getLast?.map Envelope.seq) =
      handle.emitted.length := by
  by_cases hlt : first < handle.emitted.length
  · rw [h.numbered.getLast?_drop hlt, nextFresh, Option.elim_some]
    omega
  · rw [List.drop_eq_nil_iff.mpr (Nat.not_lt.mp hlt), nextFresh]
    simp only [List.getLast?_nil, Option.map_none, Option.elim_none]
    omega

/-- Skipping ahead to a position that the filter would not let through makes
no difference. -/
theorem nextFresh_eq_of_le {next oldest : ℕ} {highestReplayed : Option ℕ}
    (hle : next ≤ oldest) (h : oldest ≤ nextFresh next highestReplayed) :
    nextFresh oldest highestReplayed = nextFresh next highestReplayed := by
  rw [nextFresh] at h ⊢
  rw [nextFresh]
  omega

namespace Invariant

variable {conn next : EventStream F}

theorem close (h : conn.Invariant) :
    ({ conn with handle := conn.handle.close } : EventStream F).Invariant := by
  obtain ⟨handle, lastSeen, phase, replayed, forwarded⟩ := conn
  obtain ⟨hsound, hseen, hfollows⟩ := h
  refine ⟨hsound.close, hseen, ?_⟩
  cases phase with
  | opening => exact hfollows
  | subscribed next => exact hfollows
  | streaming next highestReplayed backlog => exact hfollows
  | ended =>
      have hgapless : Gapless _ := hfollows
      exact ⟨hgapless.seq_eq, hgapless.backlog_first⟩

/-- A connection may end at any time. -/
theorem ended (h : conn.Invariant) :
    ({ conn with phase := .ended } : EventStream F).Invariant :=
  ⟨h.sound, h.seen_lt, h.gapless.seq_eq, h.gapless.backlog_first⟩

theorem subscribe (h : conn.Invariant) (hstep : conn.subscribe = some next) :
    next.Invariant := by
  obtain ⟨handle, lastSeen, phase, replayed, forwarded⟩ := conn
  cases phase with
  | opening =>
      obtain rfl := Option.some.inj hstep
      obtain ⟨hreplayed, hforwarded⟩ := h.follows
      exact ⟨h.sound, h.seen_lt, hreplayed, hforwarded, le_rfl, h.seen_lt⟩
  | subscribed => exact absurd hstep (by simp [EventStream.subscribe])
  | streaming => exact absurd hstep (by simp [EventStream.subscribe])
  | ended => exact absurd hstep (by simp [EventStream.subscribe])

theorem snapshot (h : conn.Invariant) (hstep : conn.snapshot = some next) :
    next.Invariant := by
  obtain ⟨handle, lastSeen, phase, replayed, forwarded⟩ := conn
  cases phase with
  | opening => exact absurd hstep (by simp [EventStream.snapshot])
  | subscribed position =>
      obtain ⟨hreplayed, hforwarded, hposition, hseen⟩ := h.follows
      simp only at hreplayed hforwarded hposition hseen
      simp only [EventStream.snapshot] at hstep
      split at hstep
      · obtain rfl := Option.some.inj hstep
        exact h.ended
      · next backlog hbacklog =>
          obtain rfl := Option.some.inj hstep
          have hsound : handle.Sound := h.sound
          obtain ⟨hdrop, hfirst, hreach⟩ :=
            backlog_spec hsound hposition hseen hbacklog
          have hfresh := nextFresh_of_backlog hsound hfirst hposition hreach
          rw [← hdrop] at hfresh
          have hlength : firstNumber lastSeen backlog + backlog.length =
              handle.emitted.length := by
            have hlength := congrArg List.length hdrop
            rw [List.length_drop] at hlength
            omega
          subst hforwarded
          refine ⟨hsound, h.seen_lt, hfresh.le, hlength.trans hfresh.symm,
            ?_, List.prefix_rfl, fun _ => rfl⟩
          exact (List.prefix_rfl (l := backlog)).trans
            (hdrop ▸ List.prefix_rfl)
  | streaming => exact absurd hstep (by simp [EventStream.snapshot])
  | ended => exact absurd hstep (by simp [EventStream.snapshot])

theorem forward (h : conn.Invariant) (hstep : conn.forward = some next) :
    next.Invariant := by
  obtain ⟨handle, lastSeen, phase, replayed, forwarded⟩ := conn
  cases phase with
  | opening => exact absurd hstep (by simp [EventStream.forward])
  | subscribed => exact absurd hstep (by simp [EventStream.forward])
  | streaming position highestReplayed backlog =>
      cases backlog with
      | nil => exact absurd hstep (by simp [EventStream.forward])
      | cons envelope backlog =>
          obtain rfl := Option.some.inj hstep
          obtain ⟨hfresh, hlength, hpre, hreplayed, hwhole⟩ := h.follows
          refine ⟨h.sound, h.seen_lt, hfresh, ?_, ?_, ?_, ?_⟩
          · rwa [List.append_assoc]
          · rwa [List.append_assoc]
          · rwa [List.append_assoc]
          · intro _
            rw [List.append_assoc]
            exact hwhole (List.cons_ne_nil _ _)
  | ended => exact absurd hstep (by simp [EventStream.forward])

/-- A live event at or behind the position that the client waits for. -/
theorem item (h : conn.Invariant) {position : ℕ} {highestReplayed : Option ℕ}
    (hphase : conn.phase = .streaming position highestReplayed [])
    {envelope : Envelope F}
    (hget : conn.handle.emitted[position]? = some envelope) :
    ({ conn with
        phase := .streaming (position + 1) highestReplayed []
        forwarded := conn.forwarded ++
          if passes highestReplayed envelope then [envelope] else [] } :
      EventStream F).Invariant := by
  obtain ⟨handle, lastSeen, phase, replayed, forwarded⟩ := conn
  obtain rfl := hphase
  obtain ⟨hfresh, hlength, hpre, hreplayed, -⟩ := h.follows
  simp only at hget hfresh hlength hpre hreplayed
  rw [List.append_nil] at hlength hpre hreplayed
  have hseq := h.sound.numbered.seq_of_getElem? hget
  have hbound := (List.getElem?_eq_some_iff.mp hget).1
  rw [passes_eq_decide, hseq]
  by_cases hfreshNow : nextFresh position highestReplayed = position
  · have hnext := nextFresh_succ_of_eq hfreshNow
    rw [hfreshNow] at hlength
    have hconcat := concat_prefix_drop hpre (hlength ▸ hget)
    rw [if_pos (decide_eq_true hfreshNow)]
    refine ⟨h.sound, h.seen_lt, ?_, ?_, ?_, ?_, fun hnil => absurd rfl hnil⟩
    · rw [hnext]
      exact hbound
    · rw [List.append_nil, List.length_append, List.length_singleton, hnext,
        ← Nat.add_assoc]
      exact congrArg (· + 1) hlength
    · rwa [List.append_nil]
    · rw [List.append_nil]
      exact hreplayed.trans (List.prefix_append _ _)
  · have hnext := nextFresh_succ_of_ne hfreshNow
    rw [if_neg (by simpa using hfreshNow), List.append_nil]
    refine ⟨h.sound, h.seen_lt, ?_, ?_, ?_, ?_, fun hnil => absurd rfl hnil⟩
    · rwa [hnext]
    · rwa [List.append_nil, hnext]
    · rwa [List.append_nil]
    · rwa [List.append_nil]

/-- A poll in time either gets the next event or skips events that the backlog
contained. -/
theorem poll (h : conn.Invariant) (htime : conn.PollsInTime)
    (hstep : conn.poll = some next) :
    next.Invariant := by
  obtain ⟨handle, lastSeen, phase, replayed, forwarded⟩ := conn
  cases phase with
  | opening => exact absurd hstep (by simp [EventStream.poll])
  | subscribed => exact absurd hstep (by simp [EventStream.poll])
  | streaming position highestReplayed backlog =>
      cases backlog with
      | cons => exact absurd hstep (by simp [EventStream.poll])
      | nil =>
          cases hrecv : handle.tx.tryRecv position with
          | mk reception after =>
              simp only [EventStream.poll, hrecv] at hstep
              cases reception with
              | item envelope =>
                  obtain ⟨-, hget, rfl⟩ := Broadcast.item_of_tryRecv hrecv
                  obtain rfl := Option.some.inj hstep
                  exact h.item rfl hget
              | lagged missed =>
                  obtain ⟨hlt, rfl⟩ := Broadcast.lagged_of_tryRecv hrecv
                  obtain rfl := Option.some.inj hstep
                  have hskip : nextFresh handle.tx.oldest highestReplayed =
                      nextFresh position highestReplayed :=
                    nextFresh_eq_of_le hlt.le htime
                  obtain ⟨hfresh, hlength, hrest⟩ := h.follows
                  rw [← hskip] at hfresh hlength
                  exact ⟨h.sound, h.seen_lt, hfresh, hlength, hrest⟩
              | empty => exact absurd hstep (by simp)
              | closed =>
                  obtain rfl := Option.some.inj hstep
                  exact h.ended
  | ended => exact absurd hstep (by simp [EventStream.poll])

end Invariant

/-- A poll that comes too late is dropped without a trace, and the next one
sends an event from beyond the hole. -/
theorem poll_poll_of_late {conn : EventStream F} (h : conn.handle.Sound)
    {next : ℕ} {highestReplayed : Option ℕ}
    (hphase : conn.phase = .streaming next highestReplayed [])
    (hlate : nextFresh next highestReplayed < conn.handle.tx.oldest)
    (hcapacity : 0 < conn.handle.tx.capacity) :
    ∃ envelope : Envelope F, envelope.seq = conn.handle.tx.oldest ∧
      conn.poll.bind poll = some { conn with
        phase := .streaming (conn.handle.tx.oldest + 1) highestReplayed []
        forwarded := conn.forwarded ++ [envelope] } := by
  obtain ⟨handle, lastSeen, phase, replayed, forwarded⟩ := conn
  obtain rfl := hphase
  simp only at hlate hcapacity ⊢
  have hlt : next < handle.tx.oldest := by
    rw [nextFresh] at hlate
    omega
  have hbound : handle.tx.oldest < handle.tx.sent.length := by
    rw [Broadcast.oldest] at hlt ⊢
    omega
  have hget := List.getElem?_eq_getElem hbound
  have hseq : handle.tx.sent[handle.tx.oldest].seq = handle.tx.oldest :=
    h.numbered.seq_of_getElem? hget
  have hpasses : passes highestReplayed handle.tx.sent[handle.tx.oldest] =
      true := by
    rw [passes_eq_decide, hseq, decide_eq_true_eq]
    rw [nextFresh] at hlate ⊢
    omega
  have hlagged := Broadcast.tryRecv_of_lt_oldest hlt
  have hitem := Broadcast.tryRecv_of_getElem? le_rfl hget
  refine ⟨_, hseq, ?_⟩
  simp only [poll, hlagged, Option.bind_some, hitem, hpasses, if_true]

/-! ## Runs -/

section Runs

variable [Chrono] [JsonText F]

def step (conn : EventStream F) : Action F → Option (EventStream F)
  | .emit now event =>
      if conn.handle.canEmit then
        some { conn with handle := conn.handle.emit now event }
      else
        none
  | .close => some { conn with handle := conn.handle.close }
  | .subscribe => conn.subscribe
  | .snapshot => conn.snapshot
  | .forward => conn.forward
  | .poll => conn.poll
  | .disconnect => some { conn with phase := .ended }

/-- A request to a run that has emitted some events, by a client that has seen
one of them or names none. -/
def Initial (conn : EventStream F) : Prop :=
  ∃ (id : RunId) (replayBuffer channel : ℕ)
    (emissions : List (ClockReading × Event F)) (lastSeen : Option ℕ),
    emissions.length ≤ 2 ^ 64 ∧ (∀ seen ∈ lastSeen, seen < emissions.length) ∧
      conn =
        { handle := (RunHandle.new id replayBuffer channel).emitAll emissions
          lastSeen := lastSeen
          phase := .opening
          replayed := []
          forwarded := [] }

/-- A run and one connection, interleaved in any order. -/
def system : TransitionSystem (EventStream F) (Action F) where
  initial := Initial
  step := step

def emitting : Emitting (system (F := F)) F where
  handle := EventStream.handle
  withHandle conn handle := { conn with handle := handle }
  emit := .emit
  handle_withHandle _ _ := rfl
  withHandle_withHandle _ _ _ := rfl
  withHandle_handle _ := rfl
  step_emit _ _ _ hcan _ := if_pos hcan

namespace Invariant

variable {conn : EventStream F}

theorem emit (h : conn.Invariant) (hcan : conn.handle.canEmit = true)
    (now : ClockReading) (event : Event F) :
    ({ conn with handle := conn.handle.emit now event } :
      EventStream F).Invariant := by
  obtain ⟨handle, lastSeen, phase, replayed, forwarded⟩ := conn
  obtain ⟨hsound, hseen, hfollows⟩ := h
  have hgrow : handle.emitted <+: (handle.emit now event).emitted :=
    List.prefix_append _ _
  refine ⟨hsound.emit hcan now event, ?_, ?_⟩
  · exact fun seen hmem => (hseen seen hmem).trans_le hgrow.length_le
  · cases phase with
    | opening => exact hfollows
    | subscribed next =>
        obtain ⟨hreplayed, hforwarded, hnext, hlast⟩ := hfollows
        exact ⟨hreplayed, hforwarded, hnext.trans hgrow.length_le, hlast⟩
    | streaming next highestReplayed backlog =>
        obtain ⟨hfresh, hlength, hpre, hrest⟩ := hfollows
        exact ⟨hfresh.trans hgrow.length_le, hlength,
          hpre.trans (hgrow.drop _), hrest⟩
    | ended =>
        have hgapless : Gapless _ := hfollows
        exact ⟨hgapless.seq_eq, hgapless.backlog_first⟩

theorem initial (h : Initial conn) : conn.Invariant := by
  obtain ⟨id, replayBuffer, channel, emissions, lastSeen, hcount, hseen, rfl⟩ :=
    h
  have hlength : ((RunHandle.new id replayBuffer channel).emitAll
      emissions).emitted.length = emissions.length := by
    rw [RunHandle.emitted_emitAll_new, RunHandle.length_stream]
  refine ⟨RunHandle.Sound.emitAll_new id replayBuffer channel hcount, ?_,
    rfl, rfl⟩
  rwa [hlength]

/-- One step of the run or of the connection. -/
theorem step {next : EventStream F} (h : conn.Invariant) {action : Action F}
    (htime : action = .poll → conn.PollsInTime)
    (hstep : conn.step action = some next) :
    next.Invariant := by
  cases action with
  | emit now event =>
      rw [EventStream.step, Option.ite_none_right_eq_some,
        Option.some_inj] at hstep
      obtain ⟨hcan, rfl⟩ := hstep
      exact h.emit hcan now event
  | close =>
      obtain rfl := Option.some.inj hstep
      exact h.close
  | subscribe => exact h.subscribe hstep
  | snapshot => exact h.snapshot hstep
  | forward => exact h.forward hstep
  | poll => exact h.poll (htime rfl) hstep
  | disconnect =>
      obtain rfl := Option.some.inj hstep
      exact h.ended

end Invariant

/-- As long as every poll comes before the channel has dropped the next event
that the client lacks, the client gets the backlog and then the live events
without a gap, a repetition or a change of order. -/
theorem gapless_of_pollsInTime {conn : EventStream F}
    (h : system.Reaches
      (fun conn action => action = .poll → conn.PollsInTime) conn) :
    conn.Gapless := by
  have hinvariant : conn.Invariant :=
    h.invariant (fun _ => Invariant.initial)
      fun _ _ _ hinv htime hstep => hinv.step htime hstep
  exact hinvariant.gapless

end Runs

/-! ## A client that reads in time -/

open scoped StandIns

open RunHandle (quietRun quietHeartbeat overflowingRun replayBufferSize)

/-- A client that has seen the only event so far connects again. -/
def returningClient (channel : ℕ) : EventStream Float where
  handle := (RunHandle.new quietRun replayBufferSize channel).emitAll
    [quietHeartbeat]
  lastSeen := some 0
  phase := .opening
  replayed := []
  forwarded := []

/-- The client is connected, and one more event waits for it. -/
def waitingClient : EventStream Float :=
  { returningClient 1 with
    phase := .streaming 1 none []
    handle := (returningClient 1).handle.emit ⟨0, 0⟩ quietHeartbeat.2 }

/-- The client has read it. -/
def promptClient : EventStream Float :=
  { waitingClient with
    phase := .streaming 2 none []
    forwarded := [(returningClient 1).handle.envelope ⟨0, 0⟩ quietHeartbeat.2] }

theorem initial_returningClient (channel : ℕ) :
    system.initial (returningClient channel) :=
  ⟨quietRun, replayBufferSize, channel, [quietHeartbeat], some 0,
    by decide, by simp, rfl⟩

theorem gapless_of_pollsInTime_promptClient : promptClient.Gapless := by
  let allowed : EventStream Float → Action Float → Prop :=
    fun conn action => action = .poll → conn.PollsInTime
  have hsubscribed : system.Reaches allowed
      { returningClient 1 with phase := .subscribed 1 } :=
    .step (.initial (initial_returningClient 1)) (a := .subscribe)
      (fun h => nomatch h) rfl
  have hstreaming : system.Reaches allowed
      { returningClient 1 with phase := .streaming 1 none [] } :=
    .step hsubscribed (a := .snapshot) (fun h => nomatch h) rfl
  have hwaiting : system.Reaches allowed waitingClient :=
    .step hstreaming (a := .emit ⟨0, 0⟩ quietHeartbeat.2)
      (fun h => nomatch h) rfl
  have hpoll : system.step waitingClient .poll = some promptClient := rfl
  exact gapless_of_pollsInTime
    (.step hwaiting (fun _ => Nat.le_refl 1) hpoll)

/-! ## A client that reads too slowly -/

/-- It connects, and does not read while the channel overflows. -/
def slowReading : List (Action Float) :=
  [.subscribe, .snapshot] ++ emitting.actions overflowingRun ++
    [.poll, .poll]

/-- The client after the channel has overflown. -/
def overtakenClient : EventStream Float where
  handle := (RunHandle.new quietRun replayBufferSize replayBufferSize).emitAll
    ([quietHeartbeat] ++ overflowingRun)
  lastSeen := some 0
  phase := .streaming 1 none []
  replayed := []
  forwarded := []

theorem runFrom_overtakenClient :
    system.runFrom (returningClient replayBufferSize)
        ([.subscribe, .snapshot] ++ emitting.actions overflowingRun) =
      some overtakenClient := by
  have hconnect : system.runFrom (returningClient replayBufferSize)
        [.subscribe, .snapshot] =
      some { returningClient replayBufferSize with
        phase := .streaming 1 none [] } :=
    rfl
  rw [TransitionSystem.runFrom_append, hconnect, Option.bind_some,
    emitting.runFrom_actions rfl, overtakenClient, RunHandle.emitAll_append]
  · rfl
  · rw [overflowingRun, List.length_replicate]
    have hseq : (returningClient replayBufferSize).handle.seq +
        (replayBufferSize + 1) ≤ 2 ^ 64 := by
      decide
    exact hseq
  · exact fun emission hmem => RunHandle.overflowingRun_quiet hmem

theorem sound_overtakenClient : overtakenClient.handle.Sound := by
  refine RunHandle.Sound.emitAll_new _ _ _ ?_
  rw [List.length_append, overflowingRun, List.length_replicate]
  decide

theorem capacity_overtakenClient :
    overtakenClient.handle.tx.capacity = replayBufferSize := by
  rw [overtakenClient, RunHandle.capacity_emitAll]
  rfl

theorem oldest_overtakenClient : overtakenClient.handle.tx.oldest = 2 := by
  have hlength : overtakenClient.handle.emitted.length =
      1 + (replayBufferSize + 1) := by
    rw [overtakenClient, RunHandle.emitted_emitAll_new,
      RunHandle.length_stream, List.length_append, overflowingRun,
      List.length_replicate, List.length_singleton]
  rw [RunHandle.emitted] at hlength
  rw [Broadcast.oldest, capacity_overtakenClient, hlength]
  omega

/-- The connection goes on beyond the event that the channel dropped. -/
theorem slowReading_forwards_beyond_hole :
    system.initial (returningClient replayBufferSize) ∧
      ∃ conn, system.runFrom (returningClient replayBufferSize) slowReading =
          some conn ∧
        conn.phase = .streaming 3 none [] ∧
        conn.forwarded.map Envelope.seq = [2] ∧ ¬ conn.Gapless := by
  have holdest := oldest_overtakenClient
  obtain ⟨envelope, hseq, hpolls⟩ :=
    poll_poll_of_late sound_overtakenClient rfl
      (by rw [holdest]; decide)
      (by rw [capacity_overtakenClient]; decide)
  have hruns : system.runFrom (returningClient replayBufferSize) slowReading =
      overtakenClient.poll.bind poll := by
    rw [slowReading, TransitionSystem.runFrom_append, runFrom_overtakenClient,
      Option.bind_some]
    exact congrArg _ (funext fun conn => Option.bind_fun_some _)
  rw [holdest] at hseq hpolls
  refine ⟨initial_returningClient _, _, hruns.trans hpolls, rfl,
    congrArg (fun n => [n]) hseq, fun hgapless => ?_⟩
  have hnumbers : [envelope.seq] = [1] := hgapless.seq_eq
  rw [hseq] at hnumbers
  exact absurd hnumbers (by decide)

end EventStream

end Darcbench
