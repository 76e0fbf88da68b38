import Darcbench.Agent.RunHandle

/-!
# Observers

The terminal dashboard and the plain follower both fold the events of a run
into a state of their own and discard every event up to the last number they
have seen.  When their receiver lags they read the replay buffer again.
-/

namespace Darcbench

variable {σ F : Type} [F64 F]

/-- A fold over events that remembers the last number it has seen. -/
structure Observer (σ F : Type) [F64 F] where
  lastSeq : σ → Option ℕ
  apply : σ → Envelope F → σ
  lastSeq_apply : ∀ state envelope,
    lastSeq (apply state envelope) = some envelope.seq

namespace Observer

/-- Folds one event, unless it was seen before. -/
def fold (o : Observer σ F) (state : σ) (envelope : Envelope F) : σ :=
  match o.lastSeq state with
  | some seen =>
      if envelope.seq ≤ seen then state else o.apply state envelope
  | none => o.apply state envelope

def foldAll (o : Observer σ F) (state : σ) (events : List (Envelope F)) : σ :=
  events.foldl o.fold state

/-- Reads the replay buffer again.  A replay that is refused has no events. -/
def catchUp (o : Observer σ F) (handle : RunHandle F) (state : σ) : σ :=
  o.foldAll state ((handle.eventsSince (o.lastSeq state)).getD [])

/-- The number that the state waits for. -/
def next (o : Observer σ F) (state : σ) : ℕ :=
  (o.lastSeq state).elim 0 (· + 1)

def toSequencedFold (o : Observer σ F) : SequencedFold σ (Envelope F) where
  seq := Envelope.seq
  next := o.next
  apply := o.apply
  next_apply state envelope := by
    rw [next, o.lastSeq_apply]
    rfl

/-- The state is what the events before the one it waits for amount to. -/
abbrev Follows (o : Observer σ F) (initial : σ) (log : List (Envelope F))
    (state : σ) : Prop :=
  o.toSequencedFold.Follows initial log state

variable {o : Observer σ F}

theorem fold_eq (state : σ) (envelope : Envelope F) :
    o.fold state envelope = o.toSequencedFold.fold state envelope := by
  rw [fold, SequencedFold.fold]
  have hnext : o.toSequencedFold.next state =
      (o.lastSeq state).elim 0 (· + 1) :=
    rfl
  rw [hnext]
  cases o.lastSeq state with
  | none => rfl
  | some seen =>
      rw [Option.elim_some]
      exact if_congr Nat.lt_succ_iff.symm rfl rfl

theorem foldAll_eq (state : σ) (events : List (Envelope F)) :
    o.foldAll state events =
      events.foldl o.toSequencedFold.fold state :=
  congrArg (fun f => events.foldl f state)
    (funext fun s => funext fun e => fold_eq s e)

theorem next_fold (state : σ) (envelope : Envelope F) :
    o.next (o.fold state envelope) =
      max (o.next state) (envelope.seq + 1) := by
  rw [fold_eq]
  exact o.toSequencedFold.next_fold state envelope

theorem le_next_foldAll (state : σ) (events : List (Envelope F)) :
    o.next state ≤ o.next (o.foldAll state events) := by
  induction events generalizing state with
  | nil => exact le_rfl
  | cons e rest ih =>
      have hfold : o.next state ≤ o.next (o.fold state e) := by
        rw [next_fold]
        exact Nat.le_max_left _ _
      exact hfold.trans (ih _)

theorem foldAll_append (state : σ) (first second : List (Envelope F)) :
    o.foldAll state (first ++ second) =
      o.foldAll (o.foldAll state first) second :=
  List.foldl_append

/-- A state that has seen nothing gets whatever is buffered. -/
theorem catchUp_of_none {handle : RunHandle F} {state : σ}
    (h : o.lastSeq state = none) :
    o.catchUp handle state = o.foldAll state handle.events := by
  rw [catchUp, h]
  rfl

/-- A replay that is refused changes nothing. -/
theorem catchUp_of_evicted {handle : RunHandle F} (h : handle.Sound)
    {state : σ} (hpos : 0 < o.next state)
    (hevicted : o.next state < handle.firstBuffered) :
    o.catchUp handle state = state := by
  rw [next] at hpos hevicted
  rw [catchUp]
  generalize o.lastSeq state = last at hpos hevicted ⊢
  cases last with
  | none => exact absurd hpos (Nat.lt_irrefl 0)
  | some seen =>
      have hlt : seen + 1 < handle.firstBuffered := hevicted
      rw [h.eventsSince_some h.count_le, if_pos hlt]
      rfl

namespace Follows

variable {handle : RunHandle F} {initial state : σ}

/-- An event whose predecessors have all been folded. -/
theorem item (h : o.Follows initial handle.emitted state)
    (hsound : handle.Sound) {position : ℕ} {envelope : Envelope F}
    (hget : handle.emitted[position]? = some envelope)
    (hle : position ≤ o.next state) :
    o.Follows initial handle.emitted (o.fold state envelope) := by
  rw [fold_eq]
  refine SequencedFold.Follows.fold h hsound.numbered
    (List.mem_of_getElem? hget) ?_
  rw [← hsound.numbered.seq_of_getElem? hget] at hle
  exact hle

/-- As long as nothing that the state needs was evicted, the replay buffer
brings it to the end of the run so far. -/
theorem catchUp (h : o.Follows initial handle.emitted state)
    (hsound : handle.Sound)
    (hbuffered : handle.firstBuffered ≤ o.next state) :
    o.Follows initial handle.emitted (o.catchUp handle state) ∧
      o.next (o.catchUp handle state) = handle.emitted.length := by
  have hreplay : ∃ start, start ≤ o.next state ∧
      (handle.eventsSince (o.lastSeq state)).getD [] =
        handle.emitted.drop start := by
    rw [next] at hbuffered ⊢
    generalize o.lastSeq state = last at hbuffered ⊢
    cases last with
    | none => exact ⟨handle.firstBuffered, hbuffered, hsound.events_eq⟩
    | some seen =>
        refine ⟨seen + 1, le_rfl, ?_⟩
        have hle : ¬ seen + 1 < handle.firstBuffered := Nat.not_lt.mpr hbuffered
        rw [hsound.eventsSince_some hsound.count_le, if_neg hle]
        rfl
  obtain ⟨start, hstart, hevents⟩ := hreplay
  rw [Observer.catchUp, hevents, foldAll_eq]
  exact SequencedFold.Follows.foldl_drop h hsound.numbered hstart

end Follows

/-- Reading the replay buffer again passes over no message that is still in
it. -/
theorem folds_catchUp {handle : RunHandle F} {initial state : σ}
    {kept : Envelope F → Prop}
    (h : o.toSequencedFold.Folds initial handle.emitted kept state)
    (hsound : handle.Sound)
    (hkept : ∀ e ∈ handle.emitted, kept e → handle.firstBuffered ≤ e.seq) :
    o.toSequencedFold.Folds initial handle.emitted kept
      (o.catchUp handle state) := by
  rw [Observer.catchUp, foldAll_eq]
  cases hlast : o.lastSeq state with
  | none =>
      have hevents : (handle.eventsSince none).getD [] =
          handle.emitted.drop handle.firstBuffered :=
        hsound.events_eq
      rw [hevents]
      exact h.foldl_drop hsound.numbered fun e he hek _ => hkept e he hek
  | some seen =>
      have hnext : o.toSequencedFold.next state = seen + 1 := by
        rw [show o.toSequencedFold.next state = o.next state from rfl, next,
          hlast]
        rfl
      rw [hsound.eventsSince_some hsound.count_le]
      split
      · exact h
      · rw [Option.getD_some, ← hnext]
        exact h.foldl_drop hsound.numbered fun _ _ _ hle => hle

end Observer

end Darcbench
