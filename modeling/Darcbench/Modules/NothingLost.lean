import Darcbench.Modules.LoadGen
import Darcbench.Support.Tally
import Mathlib.Data.Multiset.Range
import Mathlib.Data.UInt

/-!
# Nothing is lost under load

Every index of the schedule is with one worker, or in the log of one worker,
or still to be taken.  When all workers have returned, every request was sent
once and was answered once, and the outcome is a function of the answers.
-/

namespace Darcbench

open scoped BigOperators

/-! ## What the workers hold -/

namespace LoadWorker

/-- The index that the worker has taken and not yet written down. -/
def taken : LoadWorker → Multiset ℕ
  | .fetching | .returned => 0
  | .due index | .sleeping index | .ready index => {index}
  | .requesting request | .answered request _ => {request.index}
  | .stamped answer => {answer.request.index}

/-- The request that the worker has sent and not yet written down. -/
def underWay : LoadWorker → Multiset LoadRequest
  | .fetching | .returned | .due _ | .sleeping _ | .ready _ => 0
  | .requesting request | .answered request _ => {request}
  | .stamped answer => {answer.request}

/-- The steps that the worker is away from taking the next index, and one if it
has yet to find that there is none. -/
def rank : LoadWorker → ℕ
  | .returned => 0
  | .fetching => 1
  | .stamped _ => 2
  | .answered _ _ => 3
  | .requesting _ => 4
  | .ready _ => 5
  | .sleeping _ => 6
  | .due _ => 7

theorem map_index_underWay_le (worker : LoadWorker) :
    worker.underWay.map (·.index) ≤ worker.taken := by
  cases worker <;> simp [underWay, taken]

end LoadWorker

namespace LoadRun

variable {plan : LoadPlan}

/-- The indices that are with a worker. -/
def taken (s : LoadRun plan) : Multiset ℕ :=
  ∑ w, (s.worker w).taken

/-- The requests that are under way. -/
def underWay (s : LoadRun plan) : Multiset LoadRequest :=
  ∑ w, (s.worker w).underWay

/-- The requests that have been written down. -/
def logged (s : LoadRun plan) : Multiset LoadRequest :=
  ∑ w, ((s.log w).map (·.request) : Multiset LoadRequest)

/-- The request was owed when its index says, and did not go out earlier. -/
structure SentInTime (plan : LoadPlan) (started : ℚ) (request : LoadRequest) :
    Prop where
  due_eq : request.due = started + plan.period * request.index
  due_le_sent : request.due ≤ request.sent

/-- The request was answered after it was sent. -/
structure AnsweredInTime (plan : LoadPlan) (started : ℚ) (answer : LoadAnswer) :
    Prop where
  request : SentInTime plan started answer.request
  sent_le_done : answer.request.sent ≤ answer.done

/-- What a worker knows where it is. -/
def Knows (s : LoadRun plan) : LoadWorker → Prop
  | .fetching | .due _ | .sleeping _ => True
  | .ready index => s.dueOf index ≤ s.clock
  | .requesting request | .answered request _ =>
      SentInTime plan s.started request ∧ request.sent ≤ s.clock
  | .stamped answer => AnsweredInTime plan s.started answer
  | .returned => plan.scheduled ≤ s.next

/-- The invariant of the system. -/
structure Invariant (s : LoadRun plan) : Prop where
  knows : ∀ w, s.Knows (s.worker w)
  inTime : ∀ w, ∀ answer ∈ s.log w, AnsweredInTime plan s.started answer
  perWorker : ∀ w, s.perWorker w = Samples.ofAnswers (s.log w)
  /-- Each index below the counter is with one worker or in one log. -/
  indices : s.taken + s.logged.map (·.index) =
    Multiset.range (min s.next plan.scheduled)
  /-- Each request that was sent is under way or in one log. -/
  requests : (s.issued : Multiset LoadRequest) = s.underWay + s.logged

/-! ## One step -/

theorem Knows.mono {s t : LoadRun plan} {worker : LoadWorker}
    (h : s.Knows worker) (hstarted : t.started = s.started)
    (hclock : s.clock ≤ t.clock) (hnext : s.next ≤ t.next) :
    t.Knows worker := by
  obtain ⟨_, started, _, _, _, _, _, _, _⟩ := t
  obtain rfl := hstarted
  cases worker with
  | fetching => trivial
  | due _ => trivial
  | sleeping _ => trivial
  | ready index => exact le_trans (b := s.clock) h hclock
  | requesting request => exact ⟨h.1, h.2.trans hclock⟩
  | answered request outcome => exact ⟨h.1, h.2.trans hclock⟩
  | stamped answer => exact h
  | returned => exact le_trans (b := s.next) h hnext

namespace Invariant

variable {s t : LoadRun plan} {w : Fin plan.workerCount}

theorem start (results : List RequestResult) (now : ℚ) :
    (start plan results now).Invariant where
  knows _ := trivial
  inTime _ _ h := absurd h List.not_mem_nil
  perWorker _ := rfl
  indices := by simp [taken, logged, LoadRun.start, LoadWorker.taken]
  requests := by simp [underWay, logged, LoadRun.start, LoadWorker.underWay]

/-- A worker moves on.  If it takes an index, the counter counts it, and if it
sends a request, the request is in the list. -/
theorem move (h : s.Invariant) (worker : LoadWorker)
    (hworker : t.worker = Function.update s.worker w worker)
    (hstarted : t.started = s.started) (hclock : t.clock = s.clock)
    (hnext : s.next ≤ t.next)
    (hlog : t.log = s.log) (hperWorker : t.perWorker = s.perWorker)
    (hknows : t.Knows worker)
    (htaken : (s.worker w).taken + Multiset.range (min t.next plan.scheduled) =
      worker.taken + Multiset.range (min s.next plan.scheduled))
    (hissued : (t.issued : Multiset LoadRequest) + (s.worker w).underWay =
      s.issued + worker.underWay) :
    t.Invariant where
  knows v := by
    rw [hworker]
    by_cases hv : v = w
    · rw [hv, Function.update_self]
      exact hknows
    · rw [Function.update_of_ne hv]
      exact (h.knows v).mono hstarted hclock.ge hnext
  inTime v answer hanswer := by
    rw [hstarted]
    rw [hlog] at hanswer
    exact h.inTime v answer hanswer
  perWorker v := by
    rw [hperWorker, hlog]
    exact h.perWorker v
  indices := by
    have hsum := sum_update LoadWorker.taken s.worker w worker
    have hlogged : t.logged = s.logged := by rw [logged, logged, hlog]
    rw [hlogged, taken, hworker]
    apply add_right_cancel (b := (s.worker w).taken)
    calc _ = (∑ v, (Function.update s.worker w worker v).taken +
            (s.worker w).taken) + s.logged.map (·.index) :=
          add_right_comm _ _ _
      _ = (s.taken + s.logged.map (·.index)) + worker.taken := by
          rw [hsum, add_right_comm]
          rfl
      _ = _ := by rw [h.indices, add_comm, ← htaken, add_comm]
  requests := by
    have hsum := sum_update LoadWorker.underWay s.worker w worker
    have hlogged : t.logged = s.logged := by rw [logged, logged, hlog]
    rw [hlogged, underWay, hworker]
    apply add_right_cancel (b := (s.worker w).underWay)
    calc _ = (s.underWay + s.logged) + worker.underWay := by
          rw [hissued, h.requests]
      _ = (∑ v, (Function.update s.worker w worker v).underWay +
            (s.worker w).underWay) + s.logged := by
          rw [hsum, add_right_comm]
          rfl
      _ = _ := add_right_comm _ _ _

/-- A worker moves on with what it holds. -/
theorem enter (h : s.Invariant) (worker : LoadWorker)
    (hknows : s.Knows worker) (htaken : worker.taken = (s.worker w).taken)
    (hunderWay : worker.underWay = (s.worker w).underWay) :
    (s.enter w worker).Invariant :=
  h.move worker rfl rfl rfl le_rfl rfl rfl (hknows.mono rfl le_rfl le_rfl)
    (by rw [htaken]; rfl) (by rw [hunderWay]; rfl)

theorem fetch (h : s.Invariant) (hstep : s.fetch w = some t) :
    t.Invariant := by
  unfold LoadRun.fetch at hstep
  cases hw : s.worker w with
  | fetching =>
      simp only [hw, Option.some.injEq] at hstep
      subst hstep
      by_cases hend : plan.scheduled ≤ s.next
      · rw [if_pos hend]
        have hmin : min (s.next + 1) plan.scheduled =
            min s.next plan.scheduled := by omega
        exact h.move (w := w) .returned rfl rfl rfl
          (Nat.le_succ _) rfl rfl (hend.trans (Nat.le_succ _))
          (by rw [hw]; exact congrArg (fun n => 0 + Multiset.range n) hmin)
          (by rw [hw]; rfl)
      · rw [if_neg hend]
        have hmin : min (s.next + 1) plan.scheduled = s.next + 1 := by omega
        have hold : min s.next plan.scheduled = s.next := by omega
        refine h.move (w := w) (.due s.next) rfl rfl rfl
          (Nat.le_succ _) rfl rfl trivial ?_ (by rw [hw]; rfl)
        show _ + Multiset.range (min (s.next + 1) plan.scheduled) =
          {s.next} + _
        rw [hw, hmin, hold, Multiset.range_succ, Multiset.singleton_add]
        exact zero_add _
  | due _ | sleeping _ | ready _ | requesting _ | answered _ _ | stamped _
  | returned => simp [hw] at hstep

theorem look (h : s.Invariant) (hstep : s.look w = some t) :
    t.Invariant := by
  unfold LoadRun.look at hstep
  cases hw : s.worker w with
  | due index =>
      simp only [hw] at hstep
      by_cases hearly : s.clock < s.dueOf index
      · rw [if_pos hearly] at hstep
        obtain rfl := Option.some.inj hstep
        exact h.enter _ trivial (by rw [hw]; rfl) (by rw [hw]; rfl)
      · rw [if_neg hearly] at hstep
        have hready : s.Knows (.ready index) := not_lt.mp hearly
        by_cases hlate : starvationThreshold plan < s.clock - s.dueOf index
        · rw [if_pos hlate] at hstep
          obtain rfl := Option.some.inj hstep
          exact h.move (w := w) (.ready index) rfl rfl rfl le_rfl
            rfl rfl (hready.mono rfl le_rfl le_rfl) (by rw [hw]; rfl)
            (by rw [hw]; rfl)
        · rw [if_neg hlate] at hstep
          obtain rfl := Option.some.inj hstep
          exact h.enter _ hready (by rw [hw]; rfl) (by rw [hw]; rfl)
  | fetching | sleeping _ | ready _ | requesting _ | answered _ _ | stamped _
  | returned => simp [hw] at hstep

theorem wake (h : s.Invariant) (hstep : s.wake w = some t) :
    t.Invariant := by
  unfold LoadRun.wake at hstep
  cases hw : s.worker w with
  | sleeping index =>
      simp only [hw] at hstep
      by_cases hready : s.dueOf index ≤ s.clock
      · rw [if_pos hready] at hstep
        obtain rfl := Option.some.inj hstep
        exact h.enter _ hready (by rw [hw]; rfl) (by rw [hw]; rfl)
      · simp [hready] at hstep
  | fetching | due _ | ready _ | requesting _ | answered _ _ | stamped _
  | returned => simp [hw] at hstep

theorem send (h : s.Invariant) (hstep : s.send w = some t) :
    t.Invariant := by
  unfold LoadRun.send at hstep
  cases hw : s.worker w with
  | ready index =>
      simp only [hw, Option.some.injEq] at hstep
      subst hstep
      have hready := h.knows w
      rw [hw] at hready
      exact h.move (w := w)
        (.requesting ⟨index, s.dueOf index, s.clock⟩) rfl rfl rfl
        le_rfl rfl rfl ⟨⟨rfl, hready⟩, le_rfl⟩ (by rw [hw]; rfl)
        (by rw [hw]; exact (add_zero _).trans (Multiset.coe_add _ _).symm)
  | fetching | due _ | sleeping _ | requesting _ | answered _ _ | stamped _
  | returned => simp [hw] at hstep

theorem answer {outcome : RequestResult} (h : s.Invariant)
    (hstep : s.answer w outcome = some t) :
    t.Invariant := by
  unfold LoadRun.answer at hstep
  cases hw : s.worker w with
  | requesting request =>
      simp only [hw, Option.some.injEq] at hstep
      subst hstep
      have hknows := h.knows w
      rw [hw] at hknows
      exact h.enter (.answered request outcome) hknows
        (by rw [hw]; rfl) (by rw [hw]; rfl)
  | fetching | due _ | sleeping _ | ready _ | answered _ _ | stamped _
  | returned => simp [hw] at hstep

theorem stamp (h : s.Invariant) (hstep : s.stamp w = some t) :
    t.Invariant := by
  unfold LoadRun.stamp at hstep
  cases hw : s.worker w with
  | answered request outcome =>
      simp only [hw, Option.some.injEq] at hstep
      subst hstep
      have hknows := h.knows w
      rw [hw] at hknows
      exact h.enter (.stamped ⟨request, s.clock, outcome⟩)
        ⟨hknows.1, hknows.2⟩ (by rw [hw]; rfl) (by rw [hw]; rfl)
  | fetching | due _ | sleeping _ | ready _ | requesting _ | stamped _
  | returned => simp [hw] at hstep

theorem record (h : s.Invariant) (hstep : s.record w = some t) :
    t.Invariant := by
  unfold LoadRun.record at hstep
  cases hw : s.worker w with
  | stamped answer =>
      simp only [hw, Option.some.injEq] at hstep
      have hanswer := h.knows w
      rw [hw] at hanswer
      -- What the worker held goes to its log.
      have htaken : t.taken + {answer.request.index} = s.taken := by
        have hsum := sum_update LoadWorker.taken s.worker w .fetching
        rw [hw] at hsum
        rw [← hstep]
        exact hsum.trans (add_zero _)
      have hunderWay : t.underWay + {answer.request} = s.underWay := by
        have hsum := sum_update LoadWorker.underWay s.worker w .fetching
        rw [hw] at hsum
        rw [← hstep]
        exact hsum.trans (add_zero _)
      have hlogged : t.logged = s.logged + {answer.request} := by
        have hsum := sum_update
          (fun log : List LoadAnswer =>
            ((log.map (·.request) : List LoadRequest) : Multiset LoadRequest))
          s.log w (s.log w ++ [answer])
        rw [List.map_append, ← Multiset.coe_add, add_left_comm, add_comm,
          add_right_inj] at hsum
        rw [← hstep]
        exact hsum
      refine ⟨fun v => ?_, fun v a ha => ?_, fun v => ?_, ?_, ?_⟩
      · rw [← hstep]
        show Knows _ (Function.update s.worker w .fetching v)
        by_cases hv : v = w
        · rw [hv, Function.update_self]
          trivial
        · rw [Function.update_of_ne hv]
          exact (h.knows v).mono rfl le_rfl le_rfl
      · rw [← hstep] at ha ⊢
        have ha' : a ∈ Function.update s.log w (s.log w ++ [answer]) v := ha
        by_cases hv : v = w
        · rw [hv, Function.update_self, List.mem_append] at ha'
          rcases ha' with ha' | ha'
          · exact h.inTime w a ha'
          · obtain rfl := List.mem_singleton.mp ha'
            exact hanswer
        · rw [Function.update_of_ne hv] at ha'
          exact h.inTime v a ha'
      · rw [← hstep]
        show Function.update s.perWorker w _ v =
          Samples.ofAnswers (Function.update s.log w _ v)
        by_cases hv : v = w
        · rw [hv, Function.update_self, Function.update_self,
            Samples.ofAnswers_concat, h.perWorker]
        · rw [Function.update_of_ne hv, Function.update_of_ne hv, h.perWorker]
      · have hnext : t.next = s.next := by rw [← hstep]; rfl
        rw [hnext, ← h.indices, ← htaken, hlogged, Multiset.map_add,
          Multiset.map_singleton, add_right_comm, add_assoc]
      · have hissued : t.issued = s.issued := by rw [← hstep]; rfl
        rw [hissued, h.requests, ← hunderWay, hlogged, add_right_comm,
          add_assoc]
  | fetching | due _ | sleeping _ | ready _ | requesting _ | answered _ _
  | returned => simp [hw] at hstep

theorem pass {duration : ℚ} (h : s.Invariant)
    (hstep : s.pass duration = some t) :
    t.Invariant := by
  unfold LoadRun.pass at hstep
  by_cases hduration : 0 ≤ duration
  · rw [if_pos hduration] at hstep
    obtain rfl := Option.some.inj hstep
    exact
      { h with
        knows := fun v => (h.knows v).mono rfl
          (le_add_of_nonneg_right hduration) le_rfl }
  · simp [hduration] at hstep

theorem step {action : Action plan} (h : s.Invariant)
    (hstep : s.step action = some t) :
    t.Invariant := by
  cases action with
  | pass duration => exact h.pass hstep
  | fetch w => exact h.fetch hstep
  | look w => exact h.look hstep
  | wake w => exact h.wake hstep
  | send w => exact h.send hstep
  | answer w outcome => exact h.answer hstep
  | stamp w => exact h.stamp hstep
  | record w => exact h.record hstep

end Invariant

theorem invariant_of_reachable {s : LoadRun plan}
    (h : (system plan).Reachable s) :
    s.Invariant :=
  h.invariant
    (fun _ ⟨results, now, _, hs⟩ => hs ▸ Invariant.start results now)
    (fun _ _ _ hs _ hstep => hs.step hstep)

/-! ## When all workers have returned -/

/-- At least one worker is started. -/
def firstWorker (plan : LoadPlan) : Fin plan.workerCount :=
  ⟨0, lt_of_lt_of_le Nat.one_pos (le_max_right _ _)⟩

theorem logged_eq_answers (s : LoadRun plan) :
    s.logged = ((s.answers.map (·.request) : List LoadRequest) :
      Multiset LoadRequest) := by
  rw [answers, List.map_flatMap, coe_flatMap_finRange]
  rfl

/-- The merged samples are the samples of all answers. -/
theorem Invariant.samples {s : LoadRun plan} (h : s.Invariant) :
    ((List.finRange plan.workerCount).map s.perWorker).foldl Samples.merge
      Samples.empty = Samples.ofAnswers s.answers := by
  have hperWorker : s.perWorker = fun w => Samples.ofAnswers (s.log w) :=
    funext h.perWorker
  have hmerge := Samples.foldl_merge_ofAnswers []
    ((List.finRange plan.workerCount).map s.log)
  rw [List.map_map, List.nil_append, ← List.flatMap_def] at hmerge
  rw [hperWorker]
  exact hmerge

theorem AnsweredInTime.response_eq {started : ℚ} {answer : LoadAnswer}
    (h : AnsweredInTime plan started answer) :
    answer.response = answer.service + answer.slip := by
  have hsent := h.request.due_le_sent
  have hdone := h.sent_le_done
  rw [LoadAnswer.response, LoadAnswer.service, LoadAnswer.slip,
    saturatingDurationSince, saturatingDurationSince, saturatingDurationSince,
    max_eq_left (sub_nonneg.mpr (hsent.trans hdone)),
    max_eq_left (sub_nonneg.mpr hdone), max_eq_left (sub_nonneg.mpr hsent)]
  ring

theorem AnsweredInTime.service_le_response {started : ℚ} {answer : LoadAnswer}
    (h : AnsweredInTime plan started answer) :
    answer.service ≤ answer.response := by
  rw [h.response_eq]
  exact le_add_of_nonneg_right (le_max_right _ _)

/-- No index of the schedule is sent twice, and each request is owed when its
index says. -/
structure IssuesOnce (s : LoadRun plan) : Prop where
  nodup : (s.issued.map (·.index)).Nodup
  index_lt : ∀ request ∈ s.issued, request.index < plan.scheduled
  due_eq : ∀ request ∈ s.issued,
    request.due = s.started + request.index * plan.period

/-- The outcome accounts for every request of the schedule.  The bytes are
counted in 64 bits. -/
structure Accounts (s : LoadRun plan) (outcome : LoadOutcome) : Prop where
  issued : (s.issued.map (·.index)).Perm (List.range plan.scheduled)
  due : (s.issued.map (·.due)).Perm
    ((List.range plan.scheduled).map fun i : ℕ => s.started + i * plan.period)
  answered : (s.answers.map (·.request)).Perm s.issued
  scheduled : outcome.scheduled = plan.scheduled
  total : outcome.completed + outcome.errors = outcome.scheduled
  length_slipMs : outcome.slipMs.length = outcome.scheduled
  length_serviceMs : outcome.serviceMs.length = outcome.completed
  length_responseMs : outcome.responseMs.length = outcome.completed
  completed : outcome.completed = s.answers.countP LoadAnswer.isOk
  bytes : outcome.bytes.toNat =
    (s.answers.map fun a => a.okBytes.toNat).sum % 2 ^ 64
  slipMs : outcome.slipMs = s.answers.map fun a => millis a.slip
  serviceMs : outcome.serviceMs =
    (s.answers.filter LoadAnswer.isOk).map fun a => millis a.service
  responseMs : outcome.responseMs =
    (s.answers.filter LoadAnswer.isOk).map
      fun a => millis a.service + millis a.slip
  service_le_response :
    List.Forall₂ (· ≤ ·) outcome.serviceMs outcome.responseMs

/-- What was sent is with a worker or in a log, so it is in the schedule. -/
theorem Invariant.map_index_issued_le {s : LoadRun plan} (h : s.Invariant) :
    (s.issued.map (·.index) : Multiset ℕ) ≤
      Multiset.range (min s.next plan.scheduled) := by
  have hunderWay : s.underWay.map (·.index) ≤ s.taken := by
    rw [underWay, taken, ← Multiset.coe_mapAddMonoidHom, map_sum]
    exact Finset.sum_le_sum fun w _ =>
      LoadWorker.map_index_underWay_le (s.worker w)
  rw [← Multiset.map_coe, h.requests, Multiset.map_add, ← h.indices]
  exact add_le_add_left hunderWay _

theorem Invariant.sentInTime {s : LoadRun plan} (h : s.Invariant)
    {request : LoadRequest} (hrequest : request ∈ s.issued) :
    SentInTime plan s.started request := by
  have hmem : request ∈ s.underWay + s.logged := by
    rw [← h.requests]
    exact hrequest
  rcases Multiset.mem_add.mp hmem with hmem | hmem
  · obtain ⟨w, -, hw⟩ := Multiset.mem_sum.mp hmem
    have hknows := h.knows w
    cases hworker : s.worker w with
    | requesting sent =>
        rw [hworker] at hknows hw
        obtain rfl := Multiset.mem_singleton.mp hw
        exact hknows.1
    | answered sent outcome =>
        rw [hworker] at hknows hw
        obtain rfl := Multiset.mem_singleton.mp hw
        exact hknows.1
    | stamped answer =>
        rw [hworker] at hknows hw
        obtain rfl := Multiset.mem_singleton.mp hw
        exact hknows.request
    | fetching | due _ | sleeping _ | ready _ | returned =>
        rw [hworker] at hw
        exact absurd hw (Multiset.notMem_zero _)
  · obtain ⟨w, -, hw⟩ := Multiset.mem_sum.mp hmem
    obtain ⟨answer, hanswer, rfl⟩ := List.mem_map.mp hw
    exact (h.inTime w answer hanswer).request

theorem Invariant.issuesOnce {s : LoadRun plan} (h : s.Invariant) :
    s.IssuesOnce where
  nodup := Multiset.coe_nodup.mp
    (Multiset.nodup_of_le h.map_index_issued_le (Multiset.nodup_range _))
  index_lt request hrequest := by
    have hmem := Multiset.mem_of_le h.map_index_issued_le
      (List.mem_map_of_mem (f := (·.index)) hrequest)
    have hlt := Multiset.mem_range.mp hmem
    omega
  due_eq request hrequest := by
    rw [(h.sentInTime hrequest).due_eq, mul_comm]

theorem Finished.underWay_eq {s : LoadRun plan} (h : s.Finished) :
    s.underWay = 0 := by
  rw [underWay]
  exact Finset.sum_eq_zero fun w _ => by rw [h w]; rfl

theorem Finished.taken_eq {s : LoadRun plan} (h : s.Finished) :
    s.taken = 0 := by
  rw [taken]
  exact Finset.sum_eq_zero fun w _ => by rw [h w]; rfl

/-- The workers hold nothing any more. -/
theorem Invariant.perm_range {s : LoadRun plan} (h : s.Invariant)
    (hfinished : s.Finished) :
    (s.issued.map (·.index)).Perm (List.range plan.scheduled) := by
  have hnext : plan.scheduled ≤ s.next := by
    have hknows := h.knows (firstWorker plan)
    rw [hfinished] at hknows
    exact hknows
  have hindices := h.indices
  rw [hfinished.taken_eq, zero_add, min_eq_right hnext] at hindices
  have hrequests := h.requests
  rw [hfinished.underWay_eq, zero_add] at hrequests
  rw [← hrequests] at hindices
  exact Multiset.coe_eq_coe.mp hindices

theorem Invariant.perm_issued {s : LoadRun plan} (h : s.Invariant)
    (hfinished : s.Finished) :
    (s.answers.map (·.request)).Perm s.issued := by
  have hrequests := h.requests
  rw [hfinished.underWay_eq, zero_add, logged_eq_answers] at hrequests
  exact Multiset.coe_eq_coe.mp hrequests.symm

theorem Invariant.accounts {s : LoadRun plan} (h : s.Invariant)
    (hfinished : s.Finished) (cpuUsed : ℚ) :
    s.Accounts (s.outcome cpuUsed) := by
  have hissued := h.perm_range hfinished
  have hanswered := h.perm_issued hfinished
  have hlength : s.answers.length = plan.scheduled := by
    rw [← List.length_map (f := LoadAnswer.request), hanswered.length_eq,
      ← List.length_map (f := LoadRequest.index), hissued.length_eq,
      List.length_range]
  have hinTime : ∀ answer ∈ s.answers,
      AnsweredInTime plan s.started answer := by
    intro answer hanswer
    obtain ⟨w, -, hw⟩ := List.mem_flatMap.mp hanswer
    exact h.inTime w answer hw
  have hsamples := h.samples
  have hcompleted : (s.outcome cpuUsed).completed =
      s.answers.countP LoadAnswer.isOk := by
    show (Samples.responseMs (List.foldl _ _ _)).length = _
    rw [hsamples, Samples.responseMs_ofAnswers, List.length_map,
      List.countP_eq_length_filter]
  have herrors : (s.outcome cpuUsed).errors =
      s.answers.countP fun a => !a.isOk := by
    show Samples.errors (List.foldl _ _ _) = _
    rw [hsamples, Samples.errors_ofAnswers, List.countP_eq_length_filter]
  have hslipMs : (s.outcome cpuUsed).slipMs =
      s.answers.map fun a => millis a.slip := by
    show Samples.slipMs (List.foldl _ _ _) = _
    rw [hsamples, Samples.slipMs_ofAnswers]
  have hserviceMs : (s.outcome cpuUsed).serviceMs =
      (s.answers.filter LoadAnswer.isOk).map fun a => millis a.service := by
    show Samples.serviceMs (List.foldl _ _ _) = _
    rw [hsamples, Samples.serviceMs_ofAnswers]
  have hresponse : (s.outcome cpuUsed).responseMs =
      (s.answers.filter LoadAnswer.isOk).map fun a => millis a.response := by
    show Samples.responseMs (List.foldl _ _ _) = _
    rw [hsamples, Samples.responseMs_ofAnswers]
  exact
    { issued := hissued
      due := by
        have hdue : s.issued.map (·.due) = (s.issued.map (·.index)).map
            fun i : ℕ => s.started + i * plan.period := by
          rw [List.map_map]
          exact List.map_congr_left h.issuesOnce.due_eq
        rw [hdue]
        exact hissued.map _
      answered := hanswered
      scheduled := rfl
      total := by
        rw [hcompleted, herrors]
        have hsplit := List.length_eq_countP_add_countP LoadAnswer.isOk
          (l := s.answers)
        simp only [Bool.not_eq_true, Bool.decide_eq_false] at hsplit
        exact hsplit.symm.trans hlength
      length_slipMs := by rw [hslipMs, List.length_map]; exact hlength
      length_serviceMs := by
        rw [hserviceMs, hcompleted, List.length_map,
          List.countP_eq_length_filter]
      length_responseMs := rfl
      completed := hcompleted
      bytes := by
        show (Samples.bytes (List.foldl _ _ _)).toNat = _
        rw [hsamples, Samples.toNat_bytes_ofAnswers]
      slipMs := hslipMs
      serviceMs := hserviceMs
      responseMs := by
        rw [hresponse]
        refine List.map_congr_left fun answer hanswer => ?_
        rw [(hinTime answer (List.mem_of_mem_filter hanswer)).response_eq]
        exact add_mul _ _ _
      service_le_response := by
        rw [hserviceMs, hresponse, List.forall₂_map_left_iff,
          List.forall₂_map_right_iff, List.forall₂_same]
        intro answer hanswer
        exact mul_le_mul_of_nonneg_right
          (hinTime answer
            (List.mem_of_mem_filter hanswer)).service_le_response
          (by norm_num) }

/-! ## The phase ends -/

/-- The steps that remain. -/
def remaining (s : LoadRun plan) : ℕ :=
  8 * (plan.scheduled - s.next) + ∑ w, (s.worker w).rank

theorem remaining_lt {s t : LoadRun plan} {w : Fin plan.workerCount}
    {worker : LoadWorker}
    (hworker : t.worker = Function.update s.worker w worker)
    (hlt : 8 * (plan.scheduled - t.next) + worker.rank <
      8 * (plan.scheduled - s.next) + (s.worker w).rank) :
    t.remaining < s.remaining := by
  have hsum := sum_update LoadWorker.rank s.worker w worker
  rw [remaining, remaining, hworker]
  omega

/-- The steps lead to a state in which fewer steps remain. -/
def Advances (s : LoadRun plan) (actions : List (Action plan)) : Prop :=
  ∃ t, (system plan).runFrom s actions = some t ∧ t.remaining < s.remaining

theorem advances_of_step {s t : LoadRun plan} {action : Action plan}
    {w : Fin plan.workerCount} (worker : LoadWorker)
    (hstep : s.step action = some t)
    (hworker : t.worker = Function.update s.worker w worker)
    (hlt : 8 * (plan.scheduled - t.next) + worker.rank <
      8 * (plan.scheduled - s.next) + (s.worker w).rank) :
    s.Advances [action] :=
  ⟨t, (system plan).runFrom_cons hstep [],
    remaining_lt hworker hlt⟩

/-- A worker moves on without taking an index. -/
theorem advances_of_enter {s : LoadRun plan} {action : Action plan}
    {w : Fin plan.workerCount} (worker : LoadWorker)
    (hstep : ∃ t, s.step action = some t ∧ t.next = s.next ∧
      t.worker = Function.update s.worker w worker)
    (hlt : worker.rank < (s.worker w).rank) :
    s.Advances [action] := by
  obtain ⟨t, ht, hnext, hworker⟩ := hstep
  exact advances_of_step worker ht hworker (by rw [hnext]; omega)

theorem exists_look {s : LoadRun plan} {w : Fin plan.workerCount} {index : ℕ}
    (hw : s.worker w = .due index) :
    ∃ worker : LoadWorker, worker.rank < (s.worker w).rank ∧
      ∃ t, s.look w = some t ∧ t.next = s.next ∧
        t.worker = Function.update s.worker w worker := by
  have hsleep : (LoadWorker.sleeping index).rank < (s.worker w).rank := by
    rw [hw]
    exact (by omega : 6 < 7)
  have hready : (LoadWorker.ready index).rank < (s.worker w).rank := by
    rw [hw]
    exact (by omega : 5 < 7)
  simp only [look, hw]
  by_cases hearly : s.clock < s.dueOf index
  · exact ⟨.sleeping index, hw ▸ hsleep, _, if_pos hearly, rfl, rfl⟩
  · rw [if_neg hearly]
    by_cases hlate : starvationThreshold plan < s.clock - s.dueOf index
    · exact ⟨.ready index, hw ▸ hready, _, if_pos hlate, rfl, rfl⟩
    · exact ⟨.ready index, hw ▸ hready, _, if_neg hlate, rfl, rfl⟩

/-- A worker that has not returned can go on, when enough time has passed. -/
theorem exists_advances (s : LoadRun plan) {w : Fin plan.workerCount}
    (h : s.worker w ≠ .returned) :
    ∃ actions, s.Advances actions := by
  cases hw : s.worker w with
  | fetching =>
      have hstep : s.step (.fetch w) =
          some ({ s with next := s.next + 1 }.enter w
            (if plan.scheduled ≤ s.next then .returned else .due s.next)) := by
        simp only [step, fetch, hw]
      by_cases hend : plan.scheduled ≤ s.next
      · refine ⟨_, advances_of_step (w := w) .returned hstep
          (by rw [if_pos hend]; rfl) ?_⟩
        rw [hw]
        show 8 * (plan.scheduled - (s.next + 1)) + 0 < _ + 1
        omega
      · refine ⟨_, advances_of_step (w := w) (.due s.next) hstep
          (by rw [if_neg hend]; rfl) ?_⟩
        rw [hw]
        show 8 * (plan.scheduled - (s.next + 1)) + 7 < _ + 1
        omega
  | due index =>
      obtain ⟨worker, hrank, hlook⟩ := exists_look hw
      exact ⟨[.look w], advances_of_enter worker hlook hrank⟩
  | sleeping index =>
      -- Sleeps until the request is owed.
      let late : LoadRun plan :=
        { s with clock := s.clock + max (s.dueOf index - s.clock) 0 }
      have hpass : (system plan).step s
          (.pass (max (s.dueOf index - s.clock) 0)) = some late :=
        if_pos (le_max_right _ _)
      have hready : late.dueOf index ≤ late.clock := by
        have hmax := le_max_left (s.dueOf index - s.clock) 0
        show s.dueOf index ≤ s.clock + max (s.dueOf index - s.clock) 0
        linarith
      have hlate : late.worker w = .sleeping index := hw
      have hwake : late.step (.wake w) = some (late.enter w (.ready index)) := by
        simp only [step, wake, hlate]
        exact if_pos hready
      obtain ⟨t, ht, hlt⟩ := advances_of_enter (w := w)
        (.ready index) ⟨_, hwake, rfl, rfl⟩
        (by rw [hlate]; exact Nat.lt_succ_self 5)
      exact ⟨[.pass (max (s.dueOf index - s.clock) 0), .wake w], t,
        ((system plan).runFrom_cons hpass _).trans ht,
        hlt⟩
  | ready index =>
      have hstep : s.step (.send w) =
          some ({ s with
            issued := s.issued ++
              [LoadRequest.mk index (s.dueOf index) s.clock] }.enter w
              (.requesting ⟨index, s.dueOf index, s.clock⟩)) := by
        simp only [step, send, hw]
      exact ⟨[.send w], advances_of_enter (w := w) _ ⟨_, hstep, rfl, rfl⟩
        (by rw [hw]; exact Nat.lt_succ_self 4)⟩
  | requesting request =>
      have hstep : s.step (.answer w (.ok 0)) =
          some (s.enter w (.answered request (.ok 0))) := by
        simp only [step, answer, hw]
      exact ⟨[.answer w (.ok 0)], advances_of_enter (w := w) _
        ⟨_, hstep, rfl, rfl⟩ (by rw [hw]; exact Nat.lt_succ_self 3)⟩
  | answered request outcome =>
      have hstep : s.step (.stamp w) =
          some (s.enter w (.stamped ⟨request, s.clock, outcome⟩)) := by
        simp only [step, stamp, hw]
      exact ⟨[.stamp w], advances_of_enter (w := w) _ ⟨_, hstep, rfl, rfl⟩
        (by rw [hw]; exact Nat.lt_succ_self 2)⟩
  | stamped answer =>
      have hstep : s.step (.record w) =
          some ({ s with
            perWorker := Function.update s.perWorker w
              ((s.perWorker w).record answer)
            log := Function.update s.log w (s.log w ++ [answer]) }.enter w
              .fetching) := by
        simp only [step, record, hw]
      exact ⟨[.record w], advances_of_enter (w := w) _ ⟨_, hstep, rfl, rfl⟩
        (by rw [hw]; exact Nat.lt_succ_self 1)⟩
  | returned => exact absurd hw h

/-- All workers can return, whatever has happened so far. -/
theorem exists_finished (s : LoadRun plan) :
    ∃ actions t, (system plan).runFrom s actions = some t ∧ t.Finished := by
  induction hn : s.remaining using Nat.strong_induction_on generalizing s with
  | _ n ih =>
      subst hn
      by_cases hfinished : s.Finished
      · exact ⟨[], s, rfl, hfinished⟩
      · obtain ⟨w, hw⟩ := not_forall.mp hfinished
        obtain ⟨first, t, ht, hlt⟩ := s.exists_advances hw
        obtain ⟨rest, u, hu, hu'⟩ := ih _ hlt t rfl
        exact ⟨first ++ rest, u, by
          rw [TransitionSystem.runFrom_append, ht, Option.bind_some, hu], hu'⟩

/-- Every index of the schedule is sent at most once in any interleaving, all
workers can return, and when they have, the outcome accounts for the whole
schedule. -/
theorem issuesOnce_and_accounts {s : LoadRun plan}
    (h : (system plan).Reachable s) :
    s.IssuesOnce ∧
      (s.Finished → ∀ cpuUsed, s.Accounts (s.outcome cpuUsed)) ∧
      ∃ actions t, (system plan).runFrom s actions = some t ∧ t.Finished :=
  have hinvariant := invariant_of_reachable h
  ⟨hinvariant.issuesOnce, hinvariant.accounts, s.exists_finished⟩

/-- Two requests in a second, for one worker. -/
def twoRequests : LoadPlan where
  ratePerS := some 2
  duration := 1
  workers := 1
  warmup := 1

/-- The first request is answered a quarter of a second after it went out, and
the second one at once.  Each answer has half of the bytes that can be
counted. -/
def answeredTwice : List (Action twoRequests) :=
  let w := firstWorker twoRequests
  [.fetch w, .look w, .send w, .answer w (.ok (2 ^ 63)), .pass (1 / 4),
    .stamp w, .record w,
    .fetch w, .look w, .pass (1 / 4), .wake w, .send w,
    .answer w (.ok (2 ^ 63)), .stamp w, .record w,
    .fetch w]

theorem isSome_answeredTwice :
    ((system twoRequests).runFrom (start twoRequests [.ok 0] 0)
      answeredTwice).isSome = true := by
  decide +kernel

/-- The phase after both requests. -/
def afterTwo : LoadRun twoRequests :=
  ((system twoRequests).runFrom (start twoRequests [.ok 0] 0)
    answeredTwice).get isSome_answeredTwice

theorem reachable_afterTwo : (system twoRequests).Reachable afterTwo :=
  TransitionSystem.Reachable.runFrom (.initial ⟨[.ok 0], 0, rfl, rfl⟩)
    (Option.some_get isSome_answeredTwice).symm

theorem finished_afterTwo : afterTwo.Finished := by
  unfold Finished
  decide +kernel

theorem issuesOnce_and_accounts_afterTwo :
    afterTwo.IssuesOnce ∧ afterTwo.Accounts (afterTwo.outcome 0) :=
  have haccounts := issuesOnce_and_accounts reachable_afterTwo
  ⟨haccounts.1, haccounts.2.1 finished_afterTwo 0⟩

/-- The sum of the bytes is more than 64 bits hold. -/
theorem bytes_ne_sum_afterTwo :
    ∃ s, (system twoRequests).Reachable s ∧ s.Finished ∧
      (s.outcome 0).bytes.toNat ≠
        (s.answers.map fun a => a.okBytes.toNat).sum :=
  ⟨afterTwo, reachable_afterTwo, finished_afterTwo, by decide +kernel⟩

end LoadRun

end Darcbench
