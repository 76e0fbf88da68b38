import Darcbench.Agent.Watchdog
import Darcbench.Protocol.Run
import Darcbench.Support.Retention
import Darcbench.Support.Runs

/-!
# The registry of runs

A start claims the single-run slot and sheds old runs under one lock.  The
tasks of the runs change states and write bundles at any time, also while
another start goes through the registry.
-/

namespace Darcbench

/-! ## Starting a run -/

inductive RunError where
  | alreadyRunning (id : RunId)
  | noModules (profile : Profile)
  | unknownModules (ids : List ModuleId)
  | internal (message : String)
  deriving DecidableEq

/-- The modules that this build has. -/
structure Registry where
  modules : List ModuleRef
  modulesForProfile : Profile → List ModuleId

namespace Registry

def get (registry : Registry) (id : ModuleId) : Option ModuleRef :=
  registry.modules.find? fun m => m.id == id

/-- The ids that are not in the registry. -/
def unknown (registry : Registry) (requested : List ModuleId) :
    List ModuleId :=
  requested.filter fun id => (registry.get id).isNone

/-- The modules that a start resolves to. -/
def resolve (registry : Registry) (profile : Profile)
    (requested : Option (List ModuleId)) : Except RunError (List ModuleId) :=
  let modules : Except RunError (List ModuleId) :=
    match requested with
    | some ids =>
        if (registry.unknown ids).isEmpty then
          .ok ids
        else
          .error (.unknownModules (registry.unknown ids))
    | none => .ok (registry.modulesForProfile profile)
  match modules with
  | .error e => .error e
  | .ok ids => if ids.isEmpty then .error (.noModules profile) else .ok ids

end Registry

/-- How long a profile cycles, in minutes, if it does. -/
def Profile.cycleTargetMinutes : Profile → Option ℕ
  | endurance => some 60
  | quick | standard | deep | readOnly | webOnly | custom => none

/-- What the caller of a start asks for, and the id that is drawn for it. -/
structure StartRequest where
  profile : Profile
  requestedModules : Option (List ModuleId)
  /-- Nanoseconds. -/
  cycleTarget : Option ℕ
  id : RunId

/-- What the registry knows of a run. -/
structure RegisteredRun where
  id : RunId
  profile : Profile
  modules : List ModuleRef
  cycleTarget : Option ℕ
  state : RunState
  /-- The execution task is spawned. -/
  spawned : Bool
  deriving DecidableEq

/-- The run that a start creates for the modules it resolved to. -/
def RegisteredRun.new (registry : Registry) (request : StartRequest)
    (modules : List ModuleId) : RegisteredRun where
  id := request.id
  profile := request.profile
  modules := modules.filterMap registry.get
  cycleTarget :=
    (request.cycleTarget <|>
      request.profile.cycleTargetMinutes.map fun m =>
        Supervision.seconds (m * 60)).map fun target =>
      min target (Supervision.seconds (Supervision.enduranceMaxMinutes * 60))
  state := .created
  spawned := false

/-! ## The eviction -/

/-- Finished runs that are kept resident after their bundle is on disk. -/
def retainedRunsInMemory : ℕ := 8

/-- The visits of `retain`, oldest run first, with the number of runs that may
still be evicted. -/
def retainVisits {α : Type} (replayable : α → Bool) : ℕ → List α → List α
  | _, [] => []
  | evictable, run :: rest =>
      if retainedRunsInMemory < evictable ∧ replayable run = true then
        retainVisits replayable (evictable - 1) rest
      else
        run :: retainVisits replayable evictable rest

/-- What an eviction that nobody interrupts leaves. -/
def evictReplayable {α : Type} (replayable : α → Bool) (runs : List α) :
    List α :=
  let evictable := runs.countP replayable
  if evictable ≤ retainedRunsInMemory then
    runs
  else
    retainVisits replayable evictable runs

theorem retainVisits_eq {α : Type} (replayable : α → Bool) (evictable : ℕ)
    (runs : List α) :
    retainVisits replayable evictable runs =
      dropFirst replayable (evictable - retainedRunsInMemory) runs := by
  induction runs generalizing evictable with
  | nil => cases evictable - retainedRunsInMemory <;> rfl
  | cons run rest ih =>
      rw [retainVisits]
      by_cases hp : replayable run = true
      · by_cases hlt : retainedRunsInMemory < evictable
        · have hsucc : evictable - retainedRunsInMemory =
              evictable - 1 - retainedRunsInMemory + 1 := by
            omega
          rw [if_pos ⟨hlt, hp⟩, ih, hsucc, dropFirst_cons_pos hp]
        · have hzero : evictable - retainedRunsInMemory = 0 := by
            omega
          rw [if_neg fun h => hlt h.1, ih, hzero, dropFirst_zero,
            dropFirst_zero]
      · rw [if_neg fun h => hp h.2, ih, dropFirst_cons_neg hp]

/-- The eviction drops the oldest runs of those that it may drop. -/
theorem evictReplayable_eq {α : Type} (replayable : α → Bool)
    (runs : List α) :
    evictReplayable replayable runs =
      dropFirst replayable
        (runs.countP replayable - retainedRunsInMemory) runs := by
  rw [evictReplayable]
  split
  · next h => rw [Nat.sub_eq_zero_of_le h, dropFirst_zero]
  · exact retainVisits_eq _ _ _

/-- An eviction that is over: the runs before it, those that disk can answer
for, those that were counted and the runs after it. -/
structure Eviction where
  before : List ℕ
  replayable : List ℕ
  counted : List ℕ
  after : List ℕ

/-- The eviction dropped the oldest replayable runs and nothing else. -/
structure Eviction.Right (e : Eviction) : Prop where
  /-- The order of the remaining runs is preserved. -/
  sublist : e.after.Sublist e.before
  counted_eq : e.counted = e.replayable
  /-- Runs that memory alone can answer for are never dropped. -/
  keeps : ∀ run ∈ e.before, run ∉ e.replayable → run ∈ e.after
  /-- The runs that are dropped are older than every replayable run that
  stays. -/
  oldest : ∃ dropped, (∀ run ∈ dropped, run ∉ e.after) ∧
    e.counted = dropped ++ e.after.filter fun run => run ∈ e.counted
  length_eq : (e.after.filter fun run => run ∈ e.counted).length =
    min e.counted.length retainedRunsInMemory

/-- The eviction that the function describes is right. -/
theorem Eviction.right_evictReplayable (p : ℕ → Bool) {runs : List ℕ}
    (hnodup : runs.Nodup) :
    Eviction.Right
      { before := runs
        replayable := runs.filter p
        counted := runs.filter p
        after := evictReplayable p runs } := by
  have hafter := evictReplayable_eq p runs
  have hmem : ∀ run ∈ evictReplayable p runs,
      decide (run ∈ runs.filter p) = p run := by
    intro run hrun
    rw [hafter] at hrun
    have hbefore := (dropFirst_sublist _ _).subset hrun
    by_cases hp : p run = true
    · rw [hp, decide_eq_true (List.mem_filter.mpr ⟨hbefore, hp⟩)]
    · rw [Bool.eq_false_of_not_eq_true hp, decide_eq_false]
      exact fun h => hp (List.mem_filter.mp h).2
  have hfilter : (evictReplayable p runs).filter
      (fun run => run ∈ runs.filter p) =
        (runs.filter p).drop (runs.countP p - retainedRunsInMemory) := by
    rw [List.filter_congr hmem, hafter, filter_dropFirst]
  exact
    { sublist := by rw [hafter]; exact dropFirst_sublist _ _
      counted_eq := rfl
      keeps := by
        intro run hrun hkeep
        have hp : ¬ p run = true := fun hp =>
          hkeep (List.mem_filter.mpr ⟨hrun, hp⟩)
        change run ∈ evictReplayable p runs
        rw [hafter]
        exact mem_dropFirst hp _ hrun
      oldest := by
        refine ⟨(runs.filter p).take (runs.countP p - retainedRunsInMemory),
          ?_, ?_⟩
        · intro run hdropped hstays
          have hp := (List.mem_filter.mp (List.mem_of_mem_take hdropped)).2
          have hlate : run ∈ (runs.filter p).drop
              (runs.countP p - retainedRunsInMemory) := by
            rw [← filter_dropFirst, ← hafter]
            exact List.mem_filter.mpr ⟨hstays, hp⟩
          exact List.disjoint_take_drop (hnodup.filter p) le_rfl hdropped hlate
        · exact (List.take_append_drop _ _).symm.trans
            (congrArg _ hfilter.symm)
      length_eq := by
        change ((evictReplayable p runs).filter _).length =
          min (runs.filter p).length retainedRunsInMemory
        rw [hfilter, List.length_drop, List.countP_eq_length_filter]
        omega }

/-! ## The registry and the tasks of the runs -/

/-- Where a start that claimed the slot is in the eviction. -/
inductive RunManager.Critical where
  /-- The runs that are left to count, and those that were counted. -/
  | counting (rest counted : List ℕ)
  /-- The runs that stay, those that are left to visit, those that were
  counted, and the number that may still be evicted. -/
  | retaining (kept rest counted : List ℕ) (evictable : ℕ)

/-- The run manager.  A handle is shared by its task and the registry, so the
registry holds positions in the list of all handles. -/
structure RunManager where
  registry : Registry
  handles : List RegisteredRun
  runs : List ℕ
  /-- The run directories that hold a bundle. -/
  onDisk : List RunId
  /-- The start that holds the lock. -/
  critical : Option RunManager.Critical
  /-- History: the evictions that are over. -/
  evictions : List Eviction

namespace RunManager

/-- The handle describes a run that has not ended. -/
def live (s : RunManager) (run : ℕ) : Bool :=
  s.handles[run]?.any fun handle => !handle.state.isTerminal

/-- The run has ended, and disk can answer for it. -/
def replayable (s : RunManager) (run : ℕ) : Bool :=
  s.handles[run]?.any fun handle =>
    handle.state.isTerminal && decide (handle.id ∈ s.onDisk)

inductive Action where
  | start (request : StartRequest)
  /-- The start that holds the lock visits one run. -/
  | visit
  | spawn (run : ℕ)
  | setState (run : ℕ) (state : RunState)
  | writeBundle (run : ℕ)

/-- Claims the single-run slot, under the lock. -/
def start (s : RunManager) (request : StartRequest) :
    Except RunError RunManager :=
  match s.registry.resolve request.profile request.requestedModules with
  | .error e => .error e
  | .ok modules =>
      match s.runs.find? s.live with
      | some active =>
          match s.handles[active]? with
          | some handle => .error (.alreadyRunning handle.id)
          | none => .error (.internal "run registry lock poisoned")
      | none =>
          let runs := s.runs ++ [s.handles.length]
          .ok
            { s with
              handles :=
                s.handles ++ [RegisteredRun.new s.registry request modules]
              runs := runs
              critical := some (.counting runs []) }

/-- The end of the eviction and the release of the lock. -/
def release (s : RunManager) (counted kept : List ℕ) : RunManager :=
  { s with
    runs := kept
    critical := none
    evictions := s.evictions ++
      [{ before := s.runs
         replayable := s.runs.filter s.replayable
         counted := counted
         after := kept }] }

/-- One visit of the eviction. -/
def visit (s : RunManager) : Critical → RunManager
  | .counting (run :: rest) counted =>
      let counted :=
        if s.replayable run = true then counted ++ [run] else counted
      { s with critical := some (.counting rest counted) }
  | .counting [] counted =>
      if counted.length ≤ retainedRunsInMemory then
        s.release counted s.runs
      else
        { s with
          critical := some (.retaining [] s.runs counted counted.length) }
  | .retaining kept (run :: rest) counted evictable =>
      if retainedRunsInMemory < evictable ∧ s.replayable run = true then
        { s with
          critical := some (.retaining kept rest counted (evictable - 1)) }
      else
        { s with
          critical :=
            some (.retaining (kept ++ [run]) rest counted evictable) }
  | .retaining kept [] counted _ => s.release counted kept

def step (s : RunManager) : Action → Option RunManager
  | .start request =>
      match s.critical with
      | some _ => none
      | none =>
          match s.start request with
          | .error _ => some s
          | .ok t => some t
  | .visit => s.critical.map s.visit
  | .spawn run =>
      match s.critical, s.handles[run]? with
      | none, some handle =>
          if handle.spawned then
            none
          else
            some { s with
              handles := s.handles.set run { handle with spawned := true } }
      | _, _ => none
  | .setState run state =>
      -- The task of a run changes its state until it has ended.
      match s.handles[run]? with
      | some handle =>
          if handle.spawned && !handle.state.isTerminal then
            some { s with
              handles := s.handles.set run { handle with state := state } }
          else
            none
      | none => none
  | .writeBundle run =>
      -- The bundle is written before the end of the run is published.
      match s.handles[run]? with
      | some handle =>
          if handle.spawned && !handle.state.isTerminal then
            some { s with onDisk := handle.id :: s.onDisk }
          else
            none
      | none => none

/-- An agent that has just started, over the bundles of earlier runs. -/
def Initial (s : RunManager) : Prop :=
  s.handles = [] ∧ s.runs = [] ∧ s.critical = none ∧ s.evictions = []

/-- The starts and the tasks of the runs, interleaved in any order. -/
def system : TransitionSystem RunManager Action where
  initial := Initial
  step := step

/-! ## Tasks -/

section Tasks

variable {s : RunManager} {run : ℕ} {handle : RegisteredRun}
  (hget : s.handles[run]? = some handle) (new : RegisteredRun)

include hget

theorem getElem?_set_handles (j : ℕ) :
    (s.handles.set run new)[j]? =
      if run = j then some new else s.handles[j]? := by
  have hlt := (List.getElem?_eq_some_iff.mp hget).1
  rw [List.getElem?_set]
  by_cases heq : run = j
  · rw [if_pos heq, if_pos heq, if_pos hlt]
  · rw [if_neg heq, if_neg heq]

theorem live_set (j : ℕ) :
    ({ s with handles := s.handles.set run new } : RunManager).live j =
      if run = j then !new.state.isTerminal else s.live j := by
  rw [live, getElem?_set_handles hget]
  split <;> rfl

theorem replayable_set (j : ℕ) :
    ({ s with handles := s.handles.set run new } : RunManager).replayable j =
      if run = j then new.state.isTerminal && decide (new.id ∈ s.onDisk)
      else s.replayable j := by
  rw [replayable, getElem?_set_handles hget]
  split <;> rfl

end Tasks

/-! ## The invariant -/

/-- What the eviction has done so far. -/
def Progress (s : RunManager) : Critical → Prop
  | .counting rest counted =>
      ∃ seen, s.runs = seen ++ rest ∧ counted = seen.filter s.replayable
  | .retaining kept rest counted evictable =>
      counted = s.runs.filter s.replayable ∧
        kept ++ retainVisits s.replayable evictable rest =
          evictReplayable s.replayable s.runs

structure Invariant (s : RunManager) : Prop where
  nodup : s.runs.Nodup
  bounded : ∀ run ∈ s.runs, run < s.handles.length
  live_mem : ∀ run, s.live run = true → run ∈ s.runs
  live_unique : ∀ a b, s.live a = true → s.live b = true → a = b
  /-- The run that claimed the slot is not spawned before the lock is
  released. -/
  unspawned : s.critical.isSome = true → ∀ run handle,
    s.handles[run]? = some handle → s.live run = true →
      handle.spawned = false
  progress : ∀ c, s.critical = some c → s.Progress c
  evictions : ∀ e ∈ s.evictions, e.Right ∧
    ∀ run ∈ e.before, run ∉ e.after → s.replayable run = true

namespace Invariant

theorem initial {s : RunManager} (h : Initial s) : s.Invariant := by
  obtain ⟨hhandles, hruns, hcritical, hevictions⟩ := h
  have hdead : ∀ run, ¬ s.live run = true := by
    intro run
    rw [live, hhandles]
    exact Bool.false_ne_true
  exact
    { nodup := hruns ▸ List.nodup_nil
      bounded := hruns ▸ List.forall_mem_nil _
      live_mem := fun run h => absurd h (hdead run)
      live_unique := fun a _ h => absurd h (hdead a)
      unspawned := fun h => by
        rw [hcritical] at h
        exact absurd h Bool.false_ne_true
      progress := fun c h => absurd (hcritical.symm.trans h) (by simp)
      evictions := hevictions ▸ List.forall_mem_nil _ }

variable {s t : RunManager}

/-- Tasks end runs and write bundles, and never the other way round. -/
theorem ofTask (h : s.Invariant) (hcritical : t.critical = none)
    (hruns : t.runs = s.runs) (hevictions : t.evictions = s.evictions)
    (hlength : t.handles.length = s.handles.length)
    (hlive : ∀ run, t.live run = true → s.live run = true)
    (hreplayable : ∀ run, s.replayable run = true →
      t.replayable run = true) :
    t.Invariant where
  nodup := hruns ▸ h.nodup
  bounded := by
    rw [hruns, hlength]
    exact h.bounded
  live_mem run hrun := hruns ▸ h.live_mem run (hlive run hrun)
  live_unique a b ha hb := h.live_unique a b (hlive a ha) (hlive b hb)
  unspawned hsome := by
    rw [hcritical] at hsome
    exact absurd hsome Bool.false_ne_true
  progress c hc := absurd (hcritical.symm.trans hc) (by simp)
  evictions := by
    rw [hevictions]
    intro e he
    obtain ⟨hright, hdropped⟩ := h.evictions e he
    exact ⟨hright, fun run hrun hnot =>
      hreplayable run (hdropped run hrun hnot)⟩

/-- A run whose task acts holds up no eviction. -/
theorem critical_eq_none (h : s.Invariant) {run : ℕ} {handle : RegisteredRun}
    (hget : s.handles[run]? = some handle)
    (hacts : (handle.spawned && !handle.state.isTerminal) = true) :
    s.critical = none := by
  rw [Bool.and_eq_true] at hacts
  by_contra hcritical
  have hlive : s.live run = true := by
    rw [live, hget]
    exact hacts.2
  have hspawned := h.unspawned (Option.ne_none_iff_isSome.mp hcritical) run
    handle hget hlive
  exact Bool.false_ne_true (hspawned.symm.trans hacts.1)

theorem spawn (h : s.Invariant) {run : ℕ}
    (hstep : s.step (.spawn run) = some t) :
    t.Invariant := by
  rw [step] at hstep
  split at hstep
  · next handle hcritical hget =>
      rw [Option.ite_none_left_eq_some] at hstep
      obtain ⟨-, hstep⟩ := hstep
      obtain rfl := Option.some.inj hstep
      refine h.ofTask hcritical rfl rfl List.length_set ?_ ?_
      · intro j hj
        rw [live_set hget] at hj
        split at hj
        · next heq =>
            subst heq
            rw [live, hget]
            exact hj
        · exact hj
      · intro j hj
        rw [replayable_set hget]
        split
        · next heq =>
            subst heq
            rw [replayable, hget] at hj
            exact hj
        · exact hj
  · exact absurd hstep (by simp)

theorem setState (h : s.Invariant) {run : ℕ} {state : RunState}
    (hstep : s.step (.setState run state) = some t) :
    t.Invariant := by
  rw [step] at hstep
  split at hstep
  · next handle hget =>
      rw [Option.ite_none_right_eq_some] at hstep
      obtain ⟨hacts, hstep⟩ := hstep
      have hcritical := h.critical_eq_none hget hacts
      rw [Bool.and_eq_true] at hacts
      obtain rfl := Option.some.inj hstep
      refine h.ofTask hcritical rfl rfl List.length_set ?_ ?_
      · intro j hj
        by_cases heq : run = j
        · subst heq
          rw [live, hget]
          exact hacts.2
        · rwa [live_set hget, if_neg heq] at hj
      · intro j hj
        have hne : run ≠ j := by
          rintro rfl
          rw [replayable, hget] at hj
          have hended := (Bool.and_eq_true _ _ ▸ hj).1
          rw [hended] at hacts
          exact Bool.false_ne_true hacts.2
        rwa [replayable_set hget, if_neg hne]
  · exact absurd hstep (by simp)

theorem writeBundle (h : s.Invariant) {run : ℕ}
    (hstep : s.step (.writeBundle run) = some t) :
    t.Invariant := by
  rw [step] at hstep
  split at hstep
  · next handle hget =>
      rw [Option.ite_none_right_eq_some] at hstep
      obtain ⟨hacts, hstep⟩ := hstep
      have hcritical := h.critical_eq_none hget hacts
      obtain rfl := Option.some.inj hstep
      refine h.ofTask hcritical rfl rfl rfl (fun _ => id) ?_
      intro j hj
      rw [replayable, Option.any_eq_true] at hj ⊢
      obtain ⟨handle, hhandle, hj⟩ := hj
      rw [Bool.and_eq_true, decide_eq_true_eq] at hj
      refine ⟨handle, hhandle, ?_⟩
      rw [Bool.and_eq_true, decide_eq_true_eq]
      exact ⟨hj.1, List.mem_cons_of_mem _ hj.2⟩
  · exact absurd hstep (by simp)

/-- A new run enters a registry without live runs, and its start takes the
lock. -/
theorem push (h : s.Invariant) (hdead : ∀ run, ¬ s.live run = true)
    (registry : Registry) (request : StartRequest) (modules : List ModuleId) :
    Invariant
      { s with
        handles := s.handles ++ [RegisteredRun.new registry request modules]
        runs := s.runs ++ [s.handles.length]
        critical :=
          some (.counting (s.runs ++ [s.handles.length]) []) } := by
  have hold : ∀ {run}, run < s.handles.length →
      (s.handles ++ [RegisteredRun.new registry request modules])[run]? =
        s.handles[run]? :=
    fun hlt => List.getElem?_append_left hlt
  have hlast : ∀ run handle,
      (s.handles ++ [RegisteredRun.new registry request modules])[run]? =
          some handle →
        (!handle.state.isTerminal) = true →
          run = s.handles.length ∧
            handle = RegisteredRun.new registry request modules := by
    intro run handle hget hlive
    by_cases hlt : run < s.handles.length
    · rw [hold hlt] at hget
      refine absurd ?_ (hdead run)
      rw [live, hget]
      exact hlive
    · have hbound := (List.getElem?_eq_some_iff.mp hget).1
      rw [List.length_append, List.length_singleton] at hbound
      have heq : run = s.handles.length := by omega
      rw [heq, List.getElem?_concat_length] at hget
      exact ⟨heq, (Option.some.inj hget).symm⟩
  have hlive : ∀ run, RunManager.live
      { s with
        handles := s.handles ++ [RegisteredRun.new registry request modules]
        runs := s.runs ++ [s.handles.length]
        critical := some (.counting (s.runs ++ [s.handles.length]) []) }
      run = true → run = s.handles.length := by
    intro run hrun
    obtain ⟨handle, hget, hstate⟩ := (Option.any_eq_true _ _).mp hrun
    exact (hlast run handle hget hstate).1
  exact
    { nodup := by
        rw [List.nodup_append_comm, List.singleton_append, List.nodup_cons]
        exact ⟨fun hmem => absurd (h.bounded _ hmem) (Nat.lt_irrefl _),
          h.nodup⟩
      bounded := by
        intro run hrun
        rw [List.length_append, List.length_singleton]
        rcases List.mem_append.mp hrun with hrun | hrun
        · exact Nat.lt_succ_of_lt (h.bounded run hrun)
        · rw [List.mem_singleton.mp hrun]
          exact Nat.lt_succ_self _
      live_mem := fun run hrun =>
        hlive run hrun ▸ List.mem_append_right _ (List.mem_singleton_self _)
      live_unique := fun a b ha hb => (hlive a ha).trans (hlive b hb).symm
      unspawned := by
        intro _ run handle hget hrun
        obtain ⟨handle', hget', hstate⟩ := (Option.any_eq_true _ _).mp hrun
        rw [(hlast run handle' hget' hstate).2] at hget'
        rw [Option.some.inj (hget.symm.trans hget')]
        rfl
      progress := by
        intro c hc
        obtain rfl := Option.some.inj hc
        exact ⟨[], rfl, rfl⟩
      evictions := by
        intro e he
        obtain ⟨hright, hdropped⟩ := h.evictions e he
        refine ⟨hright, fun run hrun hnot => ?_⟩
        obtain ⟨handle, hget, hp⟩ :=
          (Option.any_eq_true _ _).mp (hdropped run hrun hnot)
        have hlt := (List.getElem?_eq_some_iff.mp hget).1
        exact (Option.any_eq_true _ _).mpr
          ⟨handle, (hold hlt).trans hget, hp⟩ }

theorem start (h : s.Invariant) {request : StartRequest}
    (hstart : s.start request = .ok t) :
    t.Invariant := by
  rw [RunManager.start] at hstart
  split at hstart
  · exact absurd hstart (by simp)
  · next modules hmodules =>
      split at hstart
      · split at hstart
        · exact absurd hstart (by simp)
        · exact absurd hstart (by simp)
      · next hnone =>
          have hdead : ∀ run, ¬ s.live run = true := fun run hlive =>
            List.find?_eq_none.mp hnone run (h.live_mem run hlive) hlive
          exact Except.ok.inj hstart ▸
            h.push hdead s.registry request modules

/-- The eviction goes on. -/
theorem goOn (h : s.Invariant) (hcritical : s.critical.isSome = true)
    {c : Critical} (hprogress : s.Progress c) :
    ({ s with critical := some c } : RunManager).Invariant where
  nodup := h.nodup
  bounded := h.bounded
  live_mem := h.live_mem
  live_unique := h.live_unique
  unspawned _ := h.unspawned hcritical
  progress c' hc' := by
    obtain rfl := Option.some.inj hc'
    cases c with
    | counting rest counted => exact hprogress
    | retaining kept rest counted evictable => exact hprogress
  evictions := h.evictions

/-- The eviction is over. -/
theorem release (h : s.Invariant) {counted kept : List ℕ}
    (hcounted : counted = s.runs.filter s.replayable)
    (hkept : kept = evictReplayable s.replayable s.runs) :
    (s.release counted kept).Invariant := by
  have hright := Eviction.right_evictReplayable s.replayable h.nodup
  rw [← hkept, ← hcounted] at hright
  have hsublist : kept.Sublist s.runs := hright.sublist
  have hkeeps : ∀ run ∈ s.runs, ¬ s.replayable run = true → run ∈ kept :=
    fun run hrun hp => hright.keeps run hrun fun hmem =>
      hp (List.mem_filter.mp (hcounted ▸ hmem)).2
  have hexclusive : ∀ run, s.live run = true → ¬ s.replayable run = true := by
    intro run hlive hreplayable
    obtain ⟨handle, hget, hstate⟩ := (Option.any_eq_true _ _).mp hlive
    rw [replayable, hget] at hreplayable
    have hended := (Bool.and_eq_true _ _ ▸ hreplayable).1
    rw [hended] at hstate
    exact Bool.false_ne_true hstate
  exact
    { nodup := hsublist.nodup h.nodup
      bounded := fun run hrun => h.bounded run (hsublist.subset hrun)
      live_mem := fun run hrun =>
        hkeeps run (h.live_mem run hrun) (hexclusive run hrun)
      live_unique := h.live_unique
      unspawned := fun hsome => absurd hsome Bool.false_ne_true
      progress := fun c hc => absurd hc (by simp [RunManager.release])
      evictions := by
        intro e he
        rcases List.mem_append.mp he with he | he
        · exact h.evictions e he
        · obtain rfl := List.mem_singleton.mp he
          refine ⟨hcounted ▸ hright, fun run hrun hnot => ?_⟩
          by_contra hp
          exact hnot (hkeeps run hrun hp) }

theorem visit (h : s.Invariant) (hstep : s.step .visit = some t) :
    t.Invariant := by
  rw [step, Option.map_eq_some_iff] at hstep
  obtain ⟨c, hc, rfl⟩ := hstep
  have hsome : s.critical.isSome = true := by
    rw [hc]
    rfl
  have hprogress := h.progress c hc
  cases c with
  | counting rest counted =>
      obtain ⟨seen, hruns, hcounted⟩ := hprogress
      cases rest with
      | nil =>
          rw [List.append_nil] at hruns
          rw [← hruns] at hcounted
          rw [RunManager.visit]
          have hlength : counted.length = s.runs.countP s.replayable := by
            rw [hcounted, List.countP_eq_length_filter]
          split
          · next hfew =>
              apply h.release hcounted
              rw [evictReplayable, if_pos (hlength ▸ hfew)]
          · next hmany =>
              apply h.goOn hsome
              refine ⟨hcounted, ?_⟩
              rw [evictReplayable, if_neg (hlength ▸ hmany), ← hlength]
              exact List.nil_append _
      | cons run rest =>
          apply h.goOn hsome
          refine ⟨seen ++ [run], ?_, ?_⟩
          · rw [hruns, List.append_assoc, List.singleton_append]
          · rw [List.filter_append, ← hcounted]
            by_cases hp : s.replayable run = true
            · rw [if_pos hp, List.filter_cons_of_pos hp, List.filter_nil]
            · rw [if_neg hp, List.filter_cons_of_neg hp, List.filter_nil,
                List.append_nil]
  | retaining kept rest counted evictable =>
      obtain ⟨hcounted, hkept⟩ := hprogress
      cases rest with
      | nil =>
          apply h.release hcounted
          rw [← hkept, retainVisits, List.append_nil]
      | cons run rest =>
          rw [retainVisits] at hkept
          rw [RunManager.visit]
          split
          · next hdrop =>
              rw [if_pos hdrop] at hkept
              exact h.goOn hsome ⟨hcounted, hkept⟩
          · next hkeep =>
              rw [if_neg hkeep] at hkept
              apply h.goOn hsome
              refine ⟨hcounted, ?_⟩
              rw [List.append_assoc]
              exact hkept

theorem step (h : s.Invariant) {a : Action} (hstep : s.step a = some t) :
    t.Invariant := by
  cases a with
  | start request =>
      rw [RunManager.step] at hstep
      split at hstep
      · exact absurd hstep (by simp)
      · split at hstep
        · exact Option.some.inj hstep ▸ h
        · next next hstart =>
            exact Option.some.inj hstep ▸ h.start hstart
  | visit => exact h.visit hstep
  | spawn run => exact h.spawn hstep
  | setState run state => exact h.setState hstep
  | writeBundle run => exact h.writeBundle hstep

end Invariant

/-- In every run of the agent at most one benchmark is in flight, a refused
start changes nothing, and every eviction drops the oldest replayable runs and
nothing else. -/
theorem singleRun_and_retention (s : RunManager) (h : system.Reachable s) :
    (s.runs.filter s.live).length ≤ 1 ∧
      (∀ request error, s.start request = .error error →
        s.critical = none → s.step (.start request) = some s) ∧
      ∀ e ∈ s.evictions, e.Right ∧
        ∀ run ∈ e.before, run ∉ e.after → s.replayable run = true := by
  have hinv : s.Invariant :=
    h.invariant (fun _ => Invariant.initial) fun _ _ _ hs _ ht => hs.step ht
  refine ⟨?_, ?_, hinv.evictions⟩
  · have hnodup := hinv.nodup.filter s.live
    have hlive : ∀ run ∈ s.runs.filter s.live, s.live run = true :=
      fun run hrun => (List.mem_filter.mp hrun).2
    cases hruns : s.runs.filter s.live with
    | nil => exact Nat.zero_le 1
    | cons a rest =>
        rw [hruns] at hnodup hlive
        have hrest : rest = [] := by
          rw [List.eq_nil_iff_forall_not_mem]
          intro b hb
          have heq := hinv.live_unique a b (hlive a List.mem_cons_self)
            (hlive b (List.mem_cons_of_mem _ hb))
          exact (List.nodup_cons.mp hnodup).1 (heq ▸ hb)
        rw [hrest]
        exact le_rfl
  · intro request error herror hcritical
    rw [step, hcritical, herror]

/-! ## Ten runs -/

def cpuOnly : Registry where
  modules := [⟨⟨"cpu.mixed", ModuleId.check_cpuMixed⟩, "1.0.0"⟩]
  modulesForProfile _ := []

def requestOf (digit : Char) : StartRequest where
  profile := .custom
  requestedModules := some [⟨"cpu.mixed", ModuleId.check_cpuMixed⟩]
  cycleTarget := none
  id :=
    match RunId.fromStr
        ("run_" ++ String.ofList (List.replicate 32 digit)) with
    | .ok id => id
    | .error _ => ⟨"run_00000000000000000000000000000000", RunId.check_zeros⟩

def emptyManager : RunManager where
  registry := cpuOnly
  handles := []
  runs := []
  onDisk := []
  critical := none
  evictions := []

/-- A run that is started and completes, with the visits of its eviction. -/
def completeRun (run visits : ℕ) : List Action :=
  [.start (requestOf (Nat.digitChar run))] ++
    List.replicate visits .visit ++
      [.spawn run, .writeBundle run, .setState run .completed]

/-- Nine runs complete, and the start of a tenth one evicts the oldest. -/
def tenRuns : List Action :=
  (List.range 9).flatMap (fun run => completeRun run (run + 2)) ++
    completeRun 9 22

def afterTenRuns : RunManager :=
  (system.runFrom emptyManager tenRuns).get (by decide +kernel)

theorem singleRun_and_retention_afterTenRuns :
    (afterTenRuns.runs.filter afterTenRuns.live).length ≤ 1 ∧
      (∀ request error, afterTenRuns.start request = .error error →
        afterTenRuns.critical = none →
          afterTenRuns.step (.start request) = some afterTenRuns) ∧
      ∀ e ∈ afterTenRuns.evictions, e.Right ∧
        ∀ run ∈ e.before, run ∉ e.after →
          afterTenRuns.replayable run = true := by
  have hrun : system.runFrom emptyManager tenRuns = some afterTenRuns :=
    (Option.some_get _).symm
  have hinitial : system.Reachable emptyManager :=
    .initial ⟨rfl, rfl, rfl, rfl⟩
  exact singleRun_and_retention afterTenRuns (hinitial.runFrom hrun)

example : afterTenRuns.runs = [1, 2, 3, 4, 5, 6, 7, 8, 9] := by
  decide +kernel

end RunManager

end Darcbench
