import Darcbench.Agent.Server

/-!
# No run is lost

A run leaves the memory of the agent only for the disk.  So whoever was told the
id of a run can ask for it at any later time.
-/

namespace Darcbench

/-! ## Memory and disk -/

namespace RunManager

variable {s t : RunManager}

/-- Every run is in memory, or has ended and is on disk. -/
def KeepsAll (s : RunManager) : Prop :=
  ∀ run < s.handles.length, run ∈ s.runs ∨ s.replayable run = true

theorem visit_cases (s : RunManager) (c : Critical) :
    (s.visit c).runs = s.runs ∨
      ∃ counted kept, s.visit c = s.release counted kept := by
  unfold visit
  split
  · exact .inl rfl
  · next counted =>
      split
      · exact .inr ⟨_, _, rfl⟩
      · exact .inl rfl
  · split
    · exact .inl rfl
    · exact .inl rfl
  · exact .inr ⟨_, _, rfl⟩

/-- What a visit drops may be dropped. -/
theorem KeepsAll.visit (h : s.KeepsAll) (hinv : s.Invariant)
    (hstep : s.step .visit = some t) :
    t.KeepsAll := by
  have hafter := hinv.visit hstep
  obtain ⟨c, hc, rfl⟩ := Option.map_eq_some_iff.mp hstep
  obtain ⟨-, hhandles, honDisk⟩ := s.visit_frame c
  have hreplayable : ∀ run, (s.visit c).replayable run = s.replayable run := by
    intro run
    rw [replayable, replayable, hhandles, honDisk]
  intro run hrun
  rw [hhandles] at hrun
  rw [hreplayable]
  rcases s.visit_cases c with hruns | ⟨counted, kept, hrelease⟩
  · rw [hruns]
    exact h run hrun
  · rcases h run hrun with hmem | hdisk
    · by_cases hkept : run ∈ kept
      · left
        rw [hrelease]
        exact hkept
      · right
        rw [← hreplayable]
        rw [hrelease] at hafter ⊢
        exact (hafter.evictions _
          (List.mem_append_right _ (List.mem_singleton_self _))).2 run hmem
            hkept
    · exact .inr hdisk

theorem KeepsAll.start (h : s.KeepsAll) {request : StartRequest}
    (hstart : s.start request = .ok t) :
    t.KeepsAll := by
  rw [RunManager.start] at hstart
  split at hstart
  · exact absurd hstart (by simp)
  · next modules hmodules =>
      split at hstart
      · split at hstart
        · exact absurd hstart (by simp)
        · exact absurd hstart (by simp)
      · obtain rfl := Except.ok.inj hstart
        intro run hrun
        dsimp only at hrun ⊢
        rw [List.length_append, List.length_singleton] at hrun
        by_cases hlt : run < s.handles.length
        · rcases h run hlt with hmem | hdisk
          · exact .inl (List.mem_append_left _ hmem)
          · right
            rw [replayable, List.getElem?_append_left hlt]
            exact hdisk
        · have hlast : run = s.handles.length := by omega
          left
          rw [hlast]
          exact List.mem_append_right _ (List.mem_singleton_self _)

theorem KeepsAll.ofTask (h : s.KeepsAll) (hruns : t.runs = s.runs)
    (hlength : t.handles.length = s.handles.length)
    (hreplayable : ∀ run, s.replayable run = true →
      t.replayable run = true) :
    t.KeepsAll := by
  intro run hrun
  rw [hlength] at hrun
  rw [hruns]
  exact (h run hrun).imp_right (hreplayable run)

/-- A task acts on a run of its own. -/
theorem KeepsAll.set (h : s.KeepsAll) {run : ℕ} {handle new : RegisteredRun}
    (hget : s.handles[run]? = some handle)
    (hnew : (handle.state.isTerminal && decide (handle.id ∈ s.onDisk)) = true →
      (new.state.isTerminal && decide (new.id ∈ s.onDisk)) = true) :
    KeepsAll { s with handles := s.handles.set run new } := by
  refine h.ofTask ?_ ?_ ?_
  · rfl
  · exact List.length_set
  · intro j hj
    rw [replayable_set hget]
    by_cases hrun : run = j
    · rw [if_pos hrun]
      rw [replayable, ← hrun, hget] at hj
      exact hnew hj
    · rw [if_neg hrun]
      exact hj

theorem KeepsAll.step (h : s.KeepsAll) (hinv : s.Invariant) {action : Action}
    (hstep : s.step action = some t) :
    t.KeepsAll := by
  cases action with
  | start request =>
      rw [RunManager.step] at hstep
      split at hstep
      · exact absurd hstep (by simp)
      · split at hstep
        · exact Option.some.inj hstep ▸ h
        · next next hstart => exact Option.some.inj hstep ▸ h.start hstart
  | visit => exact h.visit hinv hstep
  | spawn run =>
      rw [RunManager.step] at hstep
      split at hstep
      · next handle hcritical hget =>
          split at hstep
          · exact absurd hstep (by simp)
          · obtain rfl := Option.some.inj hstep
            apply h.set hget
            intro hdisk
            exact hdisk
      · exact absurd hstep (by simp)
  | setState run state =>
      rw [RunManager.step] at hstep
      split at hstep
      · next handle hget =>
          split at hstep
          · next hacts =>
              obtain rfl := Option.some.inj hstep
              apply h.set hget
              intro hdisk
              -- A run that has ended changes its state no more.
              have hended := (Bool.and_eq_true_iff.mp hdisk).1
              rw [hended] at hacts
              exact absurd hacts (by simp)
          · exact absurd hstep (by simp)
      · exact absurd hstep (by simp)
  | writeBundle run =>
      rw [RunManager.step] at hstep
      split at hstep
      · next handle hget =>
          split at hstep
          · obtain rfl := Option.some.inj hstep
            refine h.ofTask ?_ ?_ ?_
            · rfl
            · rfl
            intro j hj
            obtain ⟨other, hother, hp⟩ := (Option.any_eq_true _ _).mp hj
            obtain ⟨hended, hdisk⟩ := Bool.and_eq_true_iff.mp hp
            rw [replayable, Option.any_eq_true]
            refine ⟨other, hother, Bool.and_eq_true_iff.mpr ⟨hended, ?_⟩⟩
            rw [decide_eq_true_eq] at hdisk ⊢
            exact List.mem_cons_of_mem _ hdisk
          · exact absurd hstep (by simp)
      · exact absurd hstep (by simp)

/-- In every run of the manager each run that was ever started is in memory, or
has ended and is on disk. -/
theorem keepsAll_of_reachable (h : system.Reachable s) :
    s.Invariant ∧ s.KeepsAll := by
  apply h.invariant
  · intro s hs
    refine ⟨Invariant.initial hs, ?_⟩
    intro run hrun
    rw [hs.1] at hrun
    exact absurd hrun (Nat.not_lt_zero _)
  · intro s action t hs _ hstep
    exact ⟨hs.1.step hstep, hs.2.step hs.1 hstep⟩

end RunManager

/-! ## The server as its manager sees it -/

namespace AppState

variable {s : AppState}

/-- What the server does to its manager, the manager does on its own. -/
theorem reachable_manager (h : system.Reachable s) :
    RunManager.system.Reachable s.manager := by
  induction h with
  | initial h => exact .initial h.1
  | @step s t action hs _ hstep ih =>
      cases action with
      | createRun call request id =>
          have hcreated : s.step (.createRun call request id) = some t :=
            hstep
          rw [step] at hcreated
          split at hcreated
          · exact absurd hcreated (by simp)
          · next hfree =>
              split at hcreated
              · exact Option.some.inj hcreated ▸ ih
              · next manager hcreate =>
                  obtain rfl := Option.some.inj hcreated
                  obtain ⟨start, -, -, hstart⟩ := createRun_eq_ok hcreate
                  have hmanager : s.manager.step (.start start) =
                      some manager := by
                    rw [RunManager.step, hfree, hstart]
                  exact ih.step (a := .start start) trivial hmanager
      | cancelRun call runId =>
          have hcancelled : s.step (.cancelRun call runId) = some t := hstep
          rw [step] at hcancelled
          split at hcancelled
          · exact Option.some.inj hcancelled ▸ ih
          · obtain rfl := Option.some.inj hcancelled
            exact ih
      | task action =>
          obtain ⟨-, manager, hmanager, rfl⟩ := step_task hstep
          exact ih.step trivial hmanager

/-! ## Asking for a run -/

/-- Where the answer about a run comes from. -/
inductive Source where
  | memory (run : ℕ)
  | disk
  deriving DecidableEq

/-- What every call about one run goes through: a run of this process, or else
one whose bundle is on disk. -/
def findRun (s : AppState) (call : ApiCall) (runId : String) :
    Except ApiError Source := do
  call.require s.token false
  let id ← (RunId.fromStr runId).mapError invalidRunId
  match s.get? id with
  | some run => return .memory run
  | none => if id ∈ s.manager.onDisk then return .disk else throw unknownRun

theorem fromStr_asStr (id : RunId) : RunId.fromStr id.asStr = .ok id := by
  rw [RunId.fromStr]
  split
  · rfl
  · next e herror => exact absurd (id.valid.symm.trans herror) (by simp)

theorem get?_eq_some {id : RunId} {run : ℕ} (h : s.get? id = some run) :
    run ∈ s.manager.runs ∧
      ∃ handle, s.manager.handles[run]? = some handle ∧ handle.id = id := by
  refine ⟨List.mem_of_find?_eq_some h, ?_⟩
  have hfound : (s.manager.runs.find? fun run =>
      s.manager.handles[run]?.any fun handle => handle.id = id) = some run :=
    h
  have hsome := List.find?_some hfound
  obtain ⟨handle, hget, hid⟩ := (Option.any_eq_true _ _).mp hsome
  exact ⟨handle, hget, of_decide_eq_true hid⟩

theorem require_operator :
    operator.require afterTenMinutes.token false = .ok () := by
  decide +kernel

end AppState

end Darcbench
