import Darcbench.Agent.Replayed
import Darcbench.Web.RunView

/-!
# Frames that are lost and delivered again

The client skips a frame whose number it has reached, and takes any other one
to be the next.  A frame that overtakes a lost one is folded in its place, and
the lost one is skipped when it is delivered again.
-/

namespace Darcbench

variable {F : Type} [F64 F]

namespace RunView

/-! ## What reaches the client -/

/-- One action of the event source: a change of the connection, or a batch of
frames, given by their places in the run. -/
inductive Delivery where
  | connection (connected : Bool)
  | batch (positions : List ℕ)

namespace Delivery

def action (log : List (Envelope F)) : Delivery → Action F
  | connection connected => .connection connected
  | batch positions => .events (atPositions log positions)

/-- The places of the frames, in the order in which they are delivered. -/
def positions : Delivery → List ℕ
  | connection _ => []
  | batch positions => positions

end Delivery

/-- The frames of several deliveries. -/
def delivered (deliveries : List Delivery) : List ℕ :=
  deliveries.flatMap Delivery.positions

/-- The view after some deliveries from a run. -/
def receive (runId : String) (log : List (Envelope F))
    (deliveries : List Delivery) : RunView F :=
  (deliveries.map (Delivery.action log)).foldl reduce (reset runId)

def disconnected (view : RunView F) : RunView F :=
  { view with connected := false }

/-- The view is the fold of all events up to the last one seen.  Whether the
client is connected is not a matter of the events. -/
def Complete (runId : String) (log : List (Envelope F)) (view : RunView F) :
    Prop :=
  view.disconnected = (log.take view.next).foldl foldEvent (reset runId)

/-! ## Batches and connections do not matter -/

theorem disconnected_apply (view : RunView F) (envelope : Envelope F) :
    (view.apply envelope).disconnected =
      view.disconnected.apply envelope := by
  obtain ⟨protocol, runId, seq, ts, monoMs, event⟩ := envelope
  cases event with
  | moduleSample sample =>
      simp only [apply, foldBody, foldModuleSample, disconnected]
      split <;> rfl
  | _ =>
      simp only [apply, foldBody, foldLifecycle, foldPreflightCompleted,
        foldScore, foldRunCompleted, logged, disconnected]

theorem disconnected_foldEvent (view : RunView F) (envelope : Envelope F) :
    (view.foldEvent envelope).disconnected =
      view.disconnected.foldEvent envelope := by
  rw [foldEvent, foldEvent, apply_ite disconnected, disconnected_apply]
  rfl

theorem disconnected_foldl (view : RunView F) (events : List (Envelope F)) :
    (events.foldl foldEvent view).disconnected =
      events.foldl foldEvent view.disconnected := by
  induction events generalizing view with
  | nil => rfl
  | cons e rest ih =>
      rw [List.foldl_cons, List.foldl_cons, ih, disconnected_foldEvent]

/-- Only the order of the frames matters. -/
theorem disconnected_receive (runId : String) (log : List (Envelope F))
    (deliveries : List Delivery) :
    (receive runId log deliveries).disconnected =
      (atPositions log (delivered deliveries)).foldl foldEvent
        (reset runId) := by
  have hall (view : RunView F) :
      ((deliveries.map (Delivery.action log)).foldl reduce
          view).disconnected =
        (atPositions log (delivered deliveries)).foldl foldEvent
          view.disconnected := by
    induction deliveries generalizing view with
    | nil => rfl
    | cons delivery rest ih =>
        have hsplit : delivered (delivery :: rest) =
            delivery.positions ++ delivered rest :=
          List.flatMap_cons
        rw [List.map_cons, List.foldl_cons, ih, hsplit, atPositions_append,
          List.foldl_append]
        refine congrArg (List.foldl foldEvent · _) ?_
        cases delivery with
        | connection connected => rfl
        | batch positions => exact disconnected_foldl view _
  exact hall (reset runId)

/-! ## Complete views -/

theorem foldl_foldEvent_eq (view : RunView F) (events : List (Envelope F)) :
    events.foldl foldEvent view =
      events.foldl toSequencedFold.fold view :=
  congrArg (fun f => events.foldl f view)
    (funext fun v => funext fun e => foldEvent_eq v e)

theorem next_reset (runId : String) :
    toSequencedFold.next (reset (F := F) runId) = 0 :=
  rfl

variable {runId : String} {log : List (Envelope F)}
  {deliveries : List Delivery}

theorem disconnected_receive_eq :
    (receive runId log deliveries).disconnected =
      (atPositions log (delivered deliveries)).foldl toSequencedFold.fold
        (reset runId) := by
  rw [disconnected_receive, foldl_foldEvent_eq]

/-- The number that the view waits for lies behind all that was delivered. -/
theorem next_receive (hlog : Numbered Envelope.seq log)
    (hpositions : ∀ p ∈ delivered deliveries, p < log.length) :
    (receive runId log deliveries).next = behind 0 (delivered deliveries) := by
  have hnext : (receive runId log deliveries).next =
      toSequencedFold.next (receive runId log deliveries).disconnected :=
    rfl
  rw [hnext, disconnected_receive_eq]
  exact SequencedFold.next_foldl_atPositions hlog _ hpositions

theorem next_receive_le (hlog : Numbered Envelope.seq log)
    (hpositions : ∀ p ∈ delivered deliveries, p < log.length) :
    (receive runId log deliveries).next ≤ log.length := by
  rw [next_receive hlog hpositions]
  exact behind_le_iff.mpr ⟨Nat.zero_le _, hpositions⟩

/-- A complete view follows the run. -/
theorem complete_iff_follows (hlog : Numbered Envelope.seq log)
    (hpositions : ∀ p ∈ delivered deliveries, p < log.length) :
    (receive runId log deliveries).Complete runId log ↔
      toSequencedFold.Follows (reset runId) log
        (receive runId log deliveries).disconnected := by
  have hnext : toSequencedFold.next
      (receive runId log deliveries).disconnected =
        (receive runId log deliveries).next :=
    rfl
  rw [SequencedFold.Follows, hnext,
    and_iff_left (next_receive_le hlog hpositions), Complete,
    foldl_foldEvent_eq,
    SequencedFold.foldl_fold_eq (next_reset runId) (hlog.take _)]

/-! ## Gapless deliveries -/

theorem complete_of_gapless (hlog : Numbered Envelope.seq log)
    (hpositions : ∀ p ∈ delivered deliveries, p < log.length)
    (hgapless : Gapless 0 (delivered deliveries)) :
    (receive runId log deliveries).Complete runId log := by
  rw [complete_iff_follows hlog hpositions, disconnected_receive_eq]
  exact (SequencedFold.follows_initial (next_reset runId) log).foldl_atPositions
    hlog hpositions hgapless

/-- A result of no module in particular. -/
def quietResult : ModuleResult F where
  module := ⟨⟨"cpu.mixed", ModuleId.check_cpuMixed⟩, "1"⟩
  status := .completed
  cycle := 0
  startedAt := 0
  finishedAt := 0
  durationMs := 0.0
  metrics := []
  warnings := []
  error := none
  context := ∅

/-- A run in which every event is the completion of a module. -/
def completions (count : ℕ) : List (Envelope F) :=
  RunHandle.stream RunHandle.quietRun
    (List.replicate count (⟨0, 0⟩, .moduleCompleted ⟨quietResult⟩))

theorem numbered_completions (count : ℕ) :
    Numbered Envelope.seq (completions (F := F) count) :=
  RunHandle.numbered_stream _ _

theorem length_completions (count : ℕ) :
    (completions (F := F) count).length = count := by
  rw [completions, RunHandle.length_stream, List.length_replicate]

theorem event_of_mem_completions {count : ℕ} {envelope : Envelope F}
    (h : envelope ∈ completions count) :
    envelope.event = .moduleCompleted ⟨quietResult⟩ := by
  have hmem := List.mem_map_of_mem (f := Envelope.event) h
  rw [completions, RunHandle.map_event_stream, List.map_replicate] at hmem
  exact List.eq_of_mem_replicate hmem

theorem length_results_apply {view : RunView F} {envelope : Envelope F}
    {body : ModuleCompletedEvent F}
    (h : envelope.event = .moduleCompleted body) :
    (view.apply envelope).results.length = view.results.length + 1 := by
  simp only [apply, foldBody, h, List.length_append, List.length_singleton]

theorem length_results_foldl {count : ℕ} (view : RunView F)
    (events : List (Envelope F))
    (hevents : ∀ e ∈ events, e ∈ completions count) :
    (events.foldl apply view).results.length =
      view.results.length + events.length := by
  induction events generalizing view with
  | nil => rfl
  | cons e rest ih =>
      have hevent :=
        event_of_mem_completions (hevents e List.mem_cons_self)
      rw [List.foldl_cons,
        ih _ fun a ha => hevents a (List.mem_cons_of_mem _ ha),
        length_results_apply hevent, List.length_cons]
      omega

/-- A client that is to be complete whatever the events are, needs a delivery
without gaps. -/
theorem gapless_of_complete {count : ℕ}
    (hpositions : ∀ p ∈ delivered deliveries, p < count)
    (h : (receive runId (completions (F := F) count) deliveries).Complete runId
      (completions count)) :
    Gapless 0 (delivered deliveries) := by
  have hlog := numbered_completions (F := F) count
  have hbound : ∀ p ∈ delivered deliveries,
      p < (completions (F := F) count).length := by
    rwa [length_completions]
  obtain ⟨hfolded, hle⟩ := (complete_iff_follows hlog hbound).mp h
  rw [disconnected_receive_eq] at hfolded hle
  generalize hview : (atPositions (completions (F := F) count)
    (delivered deliveries)).foldl toSequencedFold.fold (reset runId) = view
    at hfolded hle
  have hresults := length_results_foldl (reset runId)
    ((completions (F := F) count).take (toSequencedFold.next view))
    fun e he => List.mem_of_mem_take he
  have hcount : view.results.length = toSequencedFold.next view := by
    rw [List.length_take_of_le hle] at hresults
    exact (congrArg (fun view => view.results.length) hfolded).trans
      (hresults.trans (Nat.zero_add _))
  have hroom : (reset (F := F) runId).results.length ≤
      toSequencedFold.next (reset (F := F) runId) :=
    Nat.zero_le _
  rw [← hview] at hcount
  exact (SequencedFold.gapless_of_count_eq
    (fun view : RunView F => view.results.length)
    (fun _ _ ha => length_results_apply (event_of_mem_completions ha))
    hlog hbound hroom hcount).2

/-- For every run, whatever its events are, the view is complete exactly when
the deliveries leave no gap.  Then batches and repeated frames do not matter:
two deliveries of the same frames lead to the same view. -/
theorem complete_iff_gapless (runId : String) (count : ℕ)
    (deliveries : List Delivery)
    (hpositions : ∀ p ∈ delivered deliveries, p < count) :
    ((∀ log : List (Envelope F), Numbered Envelope.seq log →
        log.length = count →
          (receive runId log deliveries).Complete runId log) ↔
      Gapless 0 (delivered deliveries)) ∧
    (Gapless 0 (delivered deliveries) →
      ∀ others : List Delivery,
        (∀ p, p ∈ delivered others ↔ p ∈ delivered deliveries) →
        Gapless 0 (delivered others) →
          ∀ log : List (Envelope F), Numbered Envelope.seq log →
            log.length = count →
              (receive runId log others).disconnected =
                (receive runId log deliveries).disconnected) := by
  refine ⟨⟨fun h => ?_, ?_⟩, ?_⟩
  · exact gapless_of_complete hpositions
      (h _ (numbered_completions count) (length_completions count))
  · rintro hgapless log hlog rfl
    exact complete_of_gapless hlog hpositions hgapless
  · rintro hgapless others hsame hothers log hlog rfl
    have hpositions' : ∀ p ∈ delivered others, p < log.length :=
      fun p hp => hpositions p ((hsame p).mp hp)
    have hnext : (receive runId log others).next =
        (receive runId log deliveries).next := by
      rw [next_receive hlog hpositions', next_receive hlog hpositions,
        behind_congr hsame]
    rw [complete_of_gapless hlog hpositions' hothers,
      complete_of_gapless hlog hpositions hgapless, hnext]

theorem complete_iff_gapless_repeated :
    (receive (F := Float) "run" (completions 2)
      [.batch [0], .connection true, .batch [0, 1]]).Complete "run"
        (completions 2) :=
  (complete_iff_gapless "run" 2 _ (by decide)).1.mpr (by decide) _
    (numbered_completions 2) (length_completions 2)

/-- The second of three frames is lost and delivered again, and the module it
completes is still missing. -/
theorem not_complete_of_lost_frame :
    let view := receive (F := Float) "run" (completions 3)
      [.batch [0, 2], .batch [1]]
    view.lastSeq = 2 ∧ view.results.length = 2 ∧
      ¬ view.Complete "run" (completions 3) := by
  refine ⟨rfl, rfl, fun hcomplete => ?_⟩
  have hall : (((completions (F := Float) 3).take 3).foldl foldEvent
      (reset "run")).results.length = 3 :=
    rfl
  have hresults := congrArg (fun view => view.results.length) hcomplete
  exact absurd (hresults.trans hall) (by decide)

end RunView

end Darcbench
