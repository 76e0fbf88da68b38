import Darcbench.Agent.RunHandle
import Darcbench.Support.Runs

/-!
# Systems in which a run emits

In every system of a run and its observers the run may emit its next event at
any time, whatever the observers are doing.
-/

namespace Darcbench

variable {σ α F : Type} [F64 F] [Chrono] [JsonText F]

/-- A system that contains a run which emits events. -/
structure Emitting (sys : TransitionSystem σ α) (F : Type) [F64 F] [Chrono]
    [JsonText F] where
  handle : σ → RunHandle F
  withHandle : σ → RunHandle F → σ
  emit : ClockReading → Event F → α
  handle_withHandle : ∀ s h, handle (withHandle s h) = h
  withHandle_withHandle : ∀ s h h',
    withHandle (withHandle s h) h' = withHandle s h'
  withHandle_handle : ∀ s, withHandle s (handle s) = s
  step_emit : ∀ s now event, (handle s).canEmit = true →
    event.isStreamTerminal = false →
      sys.step s (emit now event) =
        some (withHandle s ((handle s).emit now event))

namespace Emitting

variable {sys : TransitionSystem σ α} (e : Emitting sys F)

/-- The actions of a run that emits some events in a row. -/
def actions (emissions : List (ClockReading × Event F)) : List α :=
  emissions.map fun emission => e.emit emission.1 emission.2

theorem runFrom_actions {s : σ} {emissions : List (ClockReading × Event F)}
    (hopen : (e.handle s).tx.closed = false)
    (hcount : (e.handle s).seq + emissions.length ≤ 2 ^ 64)
    (hevents : ∀ emission ∈ emissions,
      emission.2.isStreamTerminal = false) :
    sys.runFrom s (e.actions emissions) =
      some (e.withHandle s ((e.handle s).emitAll emissions)) := by
  induction emissions generalizing s with
  | nil => exact congrArg some (e.withHandle_handle s).symm
  | cons emission rest ih =>
      rw [List.length_cons] at hcount
      have hcan : (e.handle s).canEmit = true := by
        rw [RunHandle.canEmit, hopen, decide_eq_true (by omega)]
        rfl
      let handle := (e.handle s).emit emission.1 emission.2
      have hstep : sys.step s (e.emit emission.1 emission.2) =
          some (e.withHandle s handle) :=
        e.step_emit s _ _ hcan (hevents emission List.mem_cons_self)
      have hhandle := e.handle_withHandle s handle
      have hrest := ih (s := e.withHandle s handle)
        (by rw [hhandle]; exact hopen)
        (by
          have hseq : handle.seq = (e.handle s).seq + 1 := rfl
          rw [hhandle, hseq]
          omega)
        fun emission hmem => hevents emission (List.mem_cons_of_mem _ hmem)
      rw [actions, List.map_cons, TransitionSystem.runFrom, hstep,
        Option.bind_some]
      refine hrest.trans ?_
      rw [hhandle, e.withHandle_withHandle]
      rfl

end Emitting

end Darcbench
