import Darcbench.Agent.RunHandle
import Darcbench.Report.StandIns

/-!
# What a replay contains

A replay after a known position is the exact rest of the run, or it is refused.
A replay without a position starts at the oldest event that is still buffered.
-/

namespace Darcbench

namespace RunHandle

variable {F : Type} [F64 F]

namespace WellFormed

variable {handle : RunHandle F}

theorem eq_filter_of_eventsSince (h : handle.WellFormed)
    (hcount : handle.emitted.length ≤ 2 ^ 64) {after : ℕ}
    {events : List (Envelope F)}
    (hevents : handle.eventsSince (some after) = some events) :
    events = handle.emitted.filter fun e => decide (after < e.seq) := by
  rw [h.eventsSince_some hcount] at hevents
  split at hevents
  · exact absurd hevents (by simp)
  · rw [← Option.some.inj hevents]
    exact (h.numbered.filter_le (after + 1)).symm

theorem eventsSince_eq_none_iff (h : handle.WellFormed)
    (hcount : handle.emitted.length ≤ 2 ^ 64) (after : ℕ) :
    handle.eventsSince (some after) = none ↔
      ∃ e ∈ handle.emitted, after < e.seq ∧ e ∉ handle.events := by
  rw [h.eventsSince_some hcount, ite_eq_left_iff, h.events_eq]
  simp only [reduceCtorEq, imp_false, Decidable.not_not,
    h.numbered.mem_drop_iff]
  constructor
  · intro hlt
    have hbound : after + 1 < handle.emitted.length :=
      lt_of_lt_of_le hlt (Nat.sub_le _ _)
    have hseq := h.numbered.seq_of_getElem? (List.getElem?_eq_getElem hbound)
    refine ⟨handle.emitted[after + 1], List.getElem_mem hbound, ?_, ?_⟩
    · omega
    · rintro ⟨-, hle⟩
      omega
  · rintro ⟨e, he, hafter, hevicted⟩
    have hseq : e.seq < handle.firstBuffered :=
      Nat.not_le.mp fun hle => hevicted ⟨he, hle⟩
    omega

/-- Nothing was evicted from a buffer that is large enough for the run. -/
theorem events_eq_emitted_iff (h : handle.WellFormed) :
    handle.events = handle.emitted ↔
      handle.emitted.length ≤ max handle.replayBuffer 1 := by
  constructor
  · intro heq
    have hlength := h.length_events
    rw [heq] at hlength
    omega
  · intro hle
    have hfirst : handle.firstBuffered = 0 := Nat.sub_eq_zero_of_le hle
    rw [h.events_eq, hfirst, List.drop_zero]

theorem firstBuffered_eq (h : handle.WellFormed) :
    handle.firstBuffered = handle.seq - handle.events.length := by
  rw [h.length_events, h.seq_eq, firstBuffered]
  omega

end WellFormed

/-! ## A run that outgrows its buffer -/

def quietRun : RunId where
  asStr := "run_00000000000000000000000000000000"
  valid := RunId.check_zeros

/-- The heartbeat of a run at the epoch. -/
def quietHeartbeat : ClockReading × Event Float :=
  (⟨0, 0⟩, .heartbeat ⟨.running, 0⟩)

def quietCreated : ClockReading × Event Float :=
  (⟨0, 0⟩, .runCreated ⟨.quick, [], "0.1.0", "dev-0", ""⟩)

/-- A run with one event more than the replay buffer holds. -/
@[irreducible] def overflowingRun : List (ClockReading × Event Float) :=
  List.replicate (replayBufferSize + 1) quietHeartbeat

theorem overflowingRun_quiet {e : ClockReading × Event Float}
    (h : e ∈ overflowingRun) :
    e.2.isStreamTerminal = false := by
  rw [overflowingRun] at h
  rw [List.eq_of_mem_replicate h]
  rfl

/-! ## Every replay -/

section Replays

variable [Chrono] [JsonText F]

/-- A replay after a known position is exactly the rest of the run, and it is
refused exactly when a part of that rest was evicted.  A replay without a
position is what is still buffered: a contiguous block that ends at the last
event, and the whole run as long as nothing was evicted. -/
theorem eventsSince_emitAll (id : RunId) (replayBuffer channel : ℕ)
    (emissions : List (ClockReading × Event F))
    (hcount : emissions.length ≤ 2 ^ 64) :
    let handle := (new id replayBuffer channel).emitAll emissions
    let all := stream id emissions
    (∀ after events, handle.eventsSince (some after) = some events →
      events = all.filter fun e => decide (after < e.seq)) ∧
    (∀ after, handle.eventsSince (some after) = none ↔
      ∃ e ∈ all, after < e.seq ∧ e ∉ handle.events) ∧
    handle.eventsSince none = some handle.events ∧
    (handle.eventsSince none = some all ↔
      emissions.length ≤ max replayBuffer 1) ∧
    handle.events <:+ all ∧
    handle.seq = all.length ∧
    handle.events.map Envelope.seq =
      List.range' (handle.seq - handle.events.length)
        handle.events.length := by
  intro handle all
  have hwell : handle.WellFormed :=
    (wellFormed_new id replayBuffer channel).emitAll emissions
  have hall : handle.emitted = all :=
    emitted_emitAll_new id replayBuffer channel emissions
  have hlength : handle.emitted.length = emissions.length := by
    rw [hall, length_stream]
  have hbuffer : handle.replayBuffer = replayBuffer :=
    replayBuffer_emitAll _ _
  rw [← hlength] at hcount
  rw [← hall]
  refine ⟨fun _ _ => hwell.eq_filter_of_eventsSince hcount,
    hwell.eventsSince_eq_none_iff hcount, rfl, ?_, ?_, hwell.seq_eq, ?_⟩
  · rw [eventsSince, Option.some_inj, hwell.events_eq_emitted_iff, hlength,
      hbuffer]
  · rw [hwell.events_eq]
    exact List.drop_suffix _ _
  · have hlen := hwell.length_events
    have hfirst : handle.emitted.length - handle.firstBuffered =
        handle.events.length := by
      rw [hlen, firstBuffered]
      omega
    rw [hwell.seq_events, hfirst, hwell.firstBuffered_eq]

end Replays

open scoped StandIns

theorem eventsSince_emitAll_overflowing :
    let handle := (new quietRun replayBufferSize replayBufferSize).emitAll
      overflowingRun
    handle.events <:+ stream quietRun overflowingRun ∧
      handle.seq = (stream quietRun overflowingRun).length := by
  intro handle
  have hspec := eventsSince_emitAll quietRun replayBufferSize replayBufferSize
    overflowingRun (by rw [overflowingRun, List.length_replicate]; decide)
  exact ⟨hspec.2.2.2.2.1, hspec.2.2.2.2.2.1⟩

/-- A late joiner without a position gets a replay that lacks the first event
and is not told. -/
theorem eventsSince_none_overflowing :
    let handle := (new quietRun replayBufferSize replayBufferSize).emitAll
      overflowingRun
    handle.eventsSince none ≠ none ∧
      handle.eventsSince none ≠ some (stream quietRun overflowingRun) := by
  intro handle
  refine ⟨Option.some_ne_none _, fun hall => ?_⟩
  have hwell : handle.WellFormed :=
    (wellFormed_new quietRun replayBufferSize replayBufferSize).emitAll
      overflowingRun
  have hemitted : handle.emitted = stream quietRun overflowingRun :=
    emitted_emitAll_new quietRun replayBufferSize replayBufferSize
      overflowingRun
  have hbuffer : handle.replayBuffer = replayBufferSize :=
    replayBuffer_emitAll _ _
  have hle := hwell.events_eq_emitted_iff.mp
    ((Option.some.inj hall).trans hemitted.symm)
  rw [hemitted, length_stream, hbuffer, overflowingRun,
    List.length_replicate] at hle
  exact absurd hle (by decide)

end RunHandle

end Darcbench
